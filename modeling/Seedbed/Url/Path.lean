import Seedbed.Url.Percent
import Seedbed.Url.Scheme

/-!
# Paths of addresses

A hierarchical path is built segment by segment on the text written so far: a dot segment adds
nothing, a double-dot segment takes the last segment away, any other is encoded and appended. The
drive letter that may start the path of a file stays in place and is written with a colon. An opaque
path is encoded as it stands.

Tabs and line breaks in a path do not count, but for one case: where they set a drive letter off
from what follows it in its segment, that is a segment of its own.
-/

namespace Seedbed.Url

/-! ## Tabs and line breaks -/

/-- A tab or a line break. -/
def isRemoved (c : Char) : Bool := c == '\t' || c == '\n' || c == '\r'

def unbroken (text : List Char) : List Char := text.filter (! isRemoved ·)

/-! ## Drive letters -/

def isDriveLetter (text : List Char) : Bool :=
  match text with
  | [letter, ':'] => letter.isAlpha
  | _ => false

/-- A letter with a colon or a vertical bar. -/
def isDriveSpelling (text : List Char) : Bool :=
  match text with
  | [letter, mark] => letter.isAlpha && (mark == ':' || mark == '|')
  | _ => false

/-- A drive letter that a tab or a line break sets off from the rest of its segment, with that rest.
-/
def brokenDrive? (segment : List Char) : Option (List Char × List Char) :=
  let (before, after) := segment.span (· != ':')
  let drive := unbroken before ++ [':']
  match after with
  | _ :: next :: rest =>
    if isDriveLetter drive && isRemoved next && !(unbroken rest).isEmpty then
      some (drive, unbroken rest)
    else none
  | _ => none

/-- Whether a text starts with a separator and then a whole segment that spells a drive letter. -/
def startsWithDrive (text : List Char) : Bool :=
  match text with
  | slash :: letter :: mark :: rest =>
    slash ∈ ['/', '\\', '?', '#'] && isDriveSpelling [letter, mark] &&
      (match rest with
        | [] => true
        | next :: _ => next ∈ ['/', '\\', '?', '#'])
  | _ => false

/-! ## Segments -/

def isDot (segment : List Char) : Bool :=
  String.ofList (segment.map Char.toLower) ∈ [".", "%2e"]

/-- A double-dot segment, each of its dots plain or encoded. -/
def isDoubleDot (segment : List Char) : Bool :=
  String.ofList (segment.map Char.toLower) ∈ ["..", "%2e.", ".%2e", "%2e%2e"]

/-- The text from its last slash on; empty if it has none. -/
def fromLastSlash (path : List Char) : List Char :=
  if '/' ∈ path then '/' :: (path.reverse.takeWhile (· != '/')).reverse else []

def toLastSlash (path : List Char) : List Char :=
  (path.reverse.dropWhile (· != '/')).reverse

/-- Takes the final slash away, unless it is the root or closes a segment that spells a drive. -/
def dropFinalSlash (path : List Char) : List Char :=
  let before := path.dropLast
  if path.getLast? = some '/' ∧ '/' ∈ before ∧
      ¬ startsWithDrive (fromLastSlash before ++ ['/']) then
    before
  else path

/-- Takes the last segment away; a file keeps a drive letter. -/
def dropSegment (kind : SchemeKind) (path : List Char) : List Char :=
  if kind = .file ∧ isDriveLetter (fromLastSlash path).tail then path else toLastSlash path

def closed (path : List Char) : List Char :=
  if path.getLast? = some '/' then path else path ++ ['/']

/-- Appends one segment to a path, with a slash after it if it is not the last one. -/
def appendSegment (kind : SchemeKind) (path segment : List Char) (slash : Bool) : List Char :=
  let ending := if slash then ['/'] else []
  let encoded := percentEncode isPathEncoded (unbroken segment)
  let underRoot := kind = .file ∧ path = ['/']
  match if underRoot then brokenDrive? segment else none with
  | some (drive, rest) => path ++ drive ++ '/' :: percentEncode isPathEncoded rest ++ ending
  | none =>
    if isDoubleDot encoded then
      let shorter := dropSegment kind (dropFinalSlash path)
      if slash then closed shorter else shorter
    else if isDot encoded then closed path
    else if underRoot ∧ isDriveSpelling encoded then
      path ++ encoded.take 1 ++ ':' :: ending
    else path ++ encoded ++ ending

/-- The segments of a text, each with whether a slash follows it. -/
def segments (kind : SchemeKind) : List Char → List (List Char × Bool)
  | [] => [([], false)]
  | c :: rest =>
    if kind.isSlash c then ([], true) :: segments kind rest
    else
      match segments kind rest with
      | (segment, slash) :: others => (c :: segment, slash) :: others
      | [] => [([c], false)]

/-- A path of a file has one slash at its start. -/
def singleRoot (path : List Char) : List Char := '/' :: path.dropWhile (· == '/')

def appendPath (kind : SchemeKind) (path text : List Char) : List Char :=
  let whole := (segments kind text).foldl (fun path (segment, slash) =>
    appendSegment kind path segment slash) path
  if kind = .file then singleRoot whole else whole

/-- The path after a host: a special scheme has a path of at least a slash, another none if none is
written. -/
def pathAfterHost (kind : SchemeKind) (text : List Char) : List Char :=
  match text with
  | [] => if kind.isSpecial then appendPath kind ['/'] [] else []
  | c :: rest =>
    if kind.isSpecial then appendPath kind ['/'] (if kind.isSlash c then rest else text)
    else if c = '/' then appendPath kind [] text
    else appendPath kind ['/'] text

/-- Whether a segment of a file's path, appended directly under the root, spells a drive letter. -/
def meetsDrive (kind : SchemeKind) (path : List Char) : List (List Char × Bool) → Bool
  | [] => false
  | (segment, slash) :: others =>
    (kind == .file && path == ['/'] && isDriveSpelling (unbroken segment)) ||
      meetsDrive kind (appendSegment kind path segment slash) others

/-- A path with a drive letter under its root leaves a file no host. -/
def hidesHost (kind : SchemeKind) (text : List Char) : Bool :=
  match text with
  | c :: rest => meetsDrive kind ['/'] (segments kind (if kind.isSlash c then rest else text))
  | [] => false

def opaquePath (text : List Char) : List Char := percentEncode isControlEncoded text

end Seedbed.Url

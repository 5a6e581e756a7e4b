import Seedbed.Url.Authority
import Seedbed.Url.Path

/-!
# Addresses

An address is a scheme, an authority and a path. Blanks and controls around it and tabs and line
breaks inside it do not count, and its query and fragment are no part of it.
-/

namespace Seedbed.Url

structure Address where
  /-- The scheme's name in lower case. -/
  scheme : List Char
  /-- The authority; the empty one if there is none. -/
  authority : Authority := {}
  /-- The path as it is written in the address. -/
  path : List Char
  deriving DecidableEq, Repr

/-! ## Cleaning and cutting -/

/-- A space or a C0 control. -/
def isTrimmed (c : Char) : Bool := c.toNat ≤ 0x20

def trimmed (text : List Char) : List Char :=
  ((text.dropWhile isTrimmed).reverse.dropWhile isTrimmed).reverse

/-- Passes over a slash, and over tabs and line breaks before it. -/
def skipSlash? (kind : SchemeKind) (text : List Char) : Option (List Char) :=
  match text.dropWhile isRemoved with
  | c :: rest => if kind.isSlash c then some rest else none
  | [] => none

/-- The part of a text before its query and fragment. -/
def beforeQuery (text : List Char) : List Char := text.takeWhile fun c => c != '?' && c != '#'

/-! ## The kinds of schemes -/

def afterSlashes (scheme : List Char) (kind : SchemeKind) (text : List Char) :
    Except Fault Address := do
  let (authority, rest) ← readAuthority kind text
  return { scheme, authority, path := pathAfterHost kind (beforeQuery rest) }

/-- The rest of an address of a plain scheme: an authority after two slashes, else a path under the
root after one, else an opaque path. -/
def plainAddress (scheme text : List Char) : Except Fault Address :=
  match text with
  | '/' :: '/' :: rest => afterSlashes scheme .plain rest
  | '/' :: rest => .ok { scheme, path := appendPath .plain ['/'] (beforeQuery rest) }
  | _ => .ok { scheme, path := opaquePath (beforeQuery text) }

/-- The host of a file and the text after it. A drive letter is no host but the start of the path,
and this machine goes without saying. -/
def fileHost (text : List Char) : Except Fault (Option Host × List Char) :=
  let (hostText, rest) := text.span (! endsAuthority .file ·)
  let hostText := unbroken hostText
  if isDriveSpelling hostText then .ok (none, text)
  else if hostText.isEmpty then .ok (none, rest)
  else do
    let host ← specialHost hostText
    return (if host = .name "localhost".toList then none else some host, rest)

/-- The rest of an address of a file, which still has its tabs and line breaks. -/
def fileAddress (scheme text : List Char) : Except Fault Address :=
  match (skipSlash? .file text).bind (skipSlash? .file) with
  | some rest => do
    let (host?, rest) ← fileHost rest
    let path := beforeQuery rest
    match host? with
    | none => return { scheme, path := appendPath .file ['/'] path }
    | some host =>
      let host? := if hidesHost .file path then none else some host
      return { scheme, authority := { host? }, path := pathAfterHost .file path }
  | none =>
    let root := if (skipSlash? .file text).isSome then [] else ['/']
    .ok { scheme, path := appendPath .file root (beforeQuery text) }

def Address.ofText (text : List Char) : Except Fault Address :=
  let text := trimmed text
  match splitScheme? (unbroken text) with
  | none => .error .noScheme
  | some (scheme, rest) =>
    match SchemeKind.ofName scheme with
    | .plain => plainAddress scheme rest
    | .file => fileAddress scheme (text.dropWhile (· != ':')).tail
    | .network port =>
      afterSlashes scheme (.network port)
        (rest.dropWhile (SchemeKind.network port).isSlash)

end Seedbed.Url

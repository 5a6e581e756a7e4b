/-!
# Schemes of addresses

The name before the first colon. Six schemes are special: their hosts are domain names, a backslash
separates their paths as a slash does, and five of them have a port that goes without saying.
-/

namespace Seedbed.Url

/-- How a scheme shapes the rest of an address. -/
inductive SchemeKind where
  /-- Files: special, without a port. -/
  | file
  /-- Special schemes of the network, with the port that goes without saying. -/
  | network (defaultPort : Nat)
  | plain
  deriving DecidableEq, Repr

def SchemeKind.ofName (name : List Char) : SchemeKind :=
  if name = "http".toList ∨ name = "ws".toList then .network 80
  else if name = "https".toList ∨ name = "wss".toList then .network 443
  else if name = "ftp".toList then .network 21
  else if name = "file".toList then .file
  else .plain

namespace SchemeKind

def isSpecial : SchemeKind → Bool
  | .plain => false
  | _ => true

def defaultPort? : SchemeKind → Option Nat
  | .network port => some port
  | _ => none

def isSlash (kind : SchemeKind) (c : Char) : Bool := c == '/' || (kind.isSpecial && c == '\\')

end SchemeKind

def isSchemeChar (c : Char) : Bool := c.isAlphanum || c == '+' || c == '-' || c == '.'

/-- The scheme's name in lower case and what follows its colon; a name starts with a letter. -/
def splitScheme? (text : List Char) : Option (List Char × List Char) :=
  match text.span isSchemeChar with
  | (first :: name, ':' :: rest) =>
    if first.isAlpha then some ((first :: name).map Char.toLower, rest) else none
  | _ => none

end Seedbed.Url

import Seedbed.Url.Host

/-!
# Authorities

What stands between the two slashes and the path: user information up to the last `@`, a host, and a
port after a colon. User information without a host is refused, and so is a port without one.
-/

namespace Seedbed.Url

structure Authority where
  /-- The user name as it is written in the address, empty if there is none. -/
  user : List Char := []
  /-- The password as it is written in the address, absent if there is none. -/
  password? : Option (List Char) := none
  /-- The host, absent if it is empty. -/
  host? : Option Host := none
  /-- The port, absent if it is not given or goes without saying. -/
  port? : Option Nat := none
  deriving DecidableEq, Repr

/-! ## User information -/

def endsAuthority (kind : SchemeKind) (c : Char) : Bool :=
  c == '?' || c == '#' || kind.isSlash c

/-- Splits a text at its last `@`; without one there is no first part. -/
def splitLastAt (text : List Char) : Option (List Char) × List Char :=
  match text.reverse.span (· != '@') with
  | (_, []) => (none, text)
  | (after, _ :: before) => (some before.reverse, after.reverse)

/-- The user name and, after the first colon, the password; an empty password is none. -/
def splitUserinfo (info : List Char) : List Char × Option (List Char) :=
  match info.span (· != ':') with
  | (user, []) => (percentEncode isUserinfoEncoded user, none)
  | (user, _ :: password) =>
    (percentEncode isUserinfoEncoded user,
      if password.isEmpty then none else some (percentEncode isUserinfoEncoded password))

/-! ## Host and port -/

/-- Splits a text before the first colon outside brackets. -/
def splitHost : (inBrackets : Bool) → List Char → List Char × List Char
  | _, [] => ([], [])
  | inBrackets, c :: rest =>
    if c = ':' ∧ ¬ inBrackets then ([], c :: rest)
    else
      let (host, others) :=
        splitHost (if c = '[' then true else if c = ']' then false else inBrackets) rest
      (c :: host, others)

/-- The number that the digits of a port stand for, up to 65535; without digits there is no port. -/
def portOfDigits (kind : SchemeKind) (digits : List Char) : Except Fault (Option Nat) :=
  if digits.isEmpty then .ok none
  else
    match Text.number? 10 digits with
    | none => .error .invalidPort
    | some port =>
      if 65535 < port then .error .invalidPort
      else if kind.defaultPort? = some port then .ok none
      else .ok (some port)

def hostOfText (kind : SchemeKind) (text : List Char) : Except Fault (Option Host) :=
  if kind.isSpecial then
    if text.isEmpty then .error .emptyHost else (specialHost text).map some
  else if text.isEmpty then .ok none
  else (opaqueHost text).map some

/-- Reads an authority, and returns it with the text after it. A port ends at any slash or
backslash, even where a backslash does not end a host. -/
def readAuthority (kind : SchemeKind) (text : List Char) :
    Except Fault (Authority × List Char) := do
  let (inside, outside) := text.span (! endsAuthority kind ·)
  let (info?, location) := splitLastAt inside
  let (user, password?) :=
    match info? with
    | none => ([], none)
    | some info => splitUserinfo info
  let bareAt := info? = some [] ∧ location = [] ∧ outside ≠ []
  if bareAt then throw .emptyHost
  let (hostText, portText) := splitHost false location
  let host? ← hostOfText kind hostText
  if host?.isNone ∧ portText ≠ [] then throw .emptyHost
  let digits := portText.tail.takeWhile Char.isDigit
  let port? ← portOfDigits kind digits
  let rest := portText.tail.drop digits.length
  match rest with
  | [] => pure ()
  | c :: _ => if c ≠ '\\' then throw .invalidPort
  if host?.isNone ∧ (user ≠ [] ∨ password?.isSome) then throw .emptyHost
  return (⟨user, password?, host?, port?⟩, rest ++ outside)

end Seedbed.Url

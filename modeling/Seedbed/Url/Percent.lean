/-!
# Percent encoding

A byte may be written as a percent sign and two hexadecimal digits. Each part of an address has its
own set of characters that have to be written so; a character outside ASCII is in every set, as the
bytes of its UTF-8 form.
-/

namespace Seedbed.Url

def upperHexDigit (n : Nat) : Char := ((Nat.digitChar n).toUpper)

def percentByte (byte : UInt8) : List Char :=
  ['%', upperHexDigit (byte.toNat / 16), upperHexDigit (byte.toNat % 16)]

def percentChar (encoded : Char → Bool) (c : Char) : List Char :=
  if encoded c then (String.utf8EncodeChar c).flatMap percentByte else [c]

def percentEncode (encoded : Char → Bool) (text : List Char) : List Char :=
  text.flatMap (percentChar encoded)

/-! ## The sets -/

/-- Controls and everything outside ASCII: the set of opaque hosts and opaque paths. -/
def isControlEncoded (c : Char) : Bool := c.toNat < 0x20 || 0x7F ≤ c.toNat

def isPathEncoded (c : Char) : Bool :=
  isControlEncoded c || c ∈ [' ', '"', '<', '>', '\x60', '#', '?', '\x7b', '\x7d']

def isUserinfoEncoded (c : Char) : Bool :=
  isPathEncoded c || c ∈ ['/', ':', ';', '=', '@', '[', '\\', ']', '^', '|']

/-! ## Decoding -/

def hexValue? (c : Char) : Option Nat :=
  if c.isDigit then some (c.toNat - '0'.toNat)
  else if 'a' ≤ c ∧ c ≤ 'f' then some (c.toNat - 'a'.toNat + 10)
  else if 'A' ≤ c ∧ c ≤ 'F' then some (c.toNat - 'A'.toNat + 10)
  else none

/-- The bytes of a text: a percent sign with two digits is the byte they name, any other character
its UTF-8 form. -/
def percentDecode : List Char → List UInt8
  | '%' :: high :: low :: rest =>
    match hexValue? high, hexValue? low with
    | some h, some l => UInt8.ofNat (16 * h + l) :: percentDecode rest
    | _, _ => String.utf8EncodeChar '%' ++ percentDecode (high :: low :: rest)
  | c :: rest => String.utf8EncodeChar c ++ percentDecode rest
  | [] => []

end Seedbed.Url

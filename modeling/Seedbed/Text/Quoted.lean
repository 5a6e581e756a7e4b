import Seedbed.Unicode.Visible

/-!
# Texts between quotes

How a text is shown inside a message: between double quotes, with a backslash before a quote and a
backslash, short escapes for NUL, tab, line feed and carriage return, and the code point in braces
for every other character that is not visible by itself.
-/

namespace Seedbed.Text
open Seedbed.Unicode

/-- The lower-case hexadecimal digits of a number, without leading zeros. -/
def hexDigits (n : Nat) : List Char := Nat.toDigits 16 n

def quotedChar (c : Char) : List Char :=
  match c with
  | '\x00' => ['\\', '0']
  | '\t' => ['\\', 't']
  | '\n' => ['\\', 'n']
  | '\r' => ['\\', 'r']
  | '"' => ['\\', '"']
  | '\\' => ['\\', '\\']
  | c => if isVisible c then [c] else '\\' :: 'u' :: '\x7b' :: hexDigits c.toNat ++ ['\x7d']

def quoted (text : String) : String :=
  String.ofList ('"' :: text.toList.flatMap quotedChar ++ ['"'])

end Seedbed.Text

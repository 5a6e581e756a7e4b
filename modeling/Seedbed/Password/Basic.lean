import Seedbed.Password.Argon2
import Seedbed.Password.Base64
import Seedbed.User.Generator

/-!
# Passwords

What is stored of a password: a text that names the kind of hash and its cost, with the salt and the
hash. A password fits the text if it gives the same hash with that salt.
-/

namespace Seedbed.Password

def cost : Cost := { memory := 19456, passes := 2, size := 32 }

/-- How many octets a salt has. -/
def saltSize : Nat := 16

/-- The part of a stored text that tells the kind of hash and its cost. -/
def header : String :=
  "$argon2id$v=" ++ toString Cost.version ++ "$m=" ++ toString cost.memory ++ ",t=" ++
    toString cost.passes ++ ",p=1"

def stored (salt : List UInt8) (password : String) : String :=
  header ++ "$" ++ String.ofList (base64 salt) ++ "$" ++
    String.ofList (base64 (memoryHash cost password.toUTF8.toList salt))

def parts (text : String) : String × String :=
  match (text.splitOn "$").reverse with
  | hash :: salt :: _ => (salt, hash)
  | _ => ("", "")

def verify (text password : String) : Bool :=
  match ofBase64? (parts text).1.toList with
  | some salt => stored salt password == text
  | none => false

def hasher (salts : Nat → List UInt8) : Hasher := fun calls password =>
  .ok (stored (salts calls) password)

end Seedbed.Password

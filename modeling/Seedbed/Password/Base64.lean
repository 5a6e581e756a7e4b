/-!
# Octets as text

Three octets make four characters of 64 kinds. Of a last group of one or two octets only the
characters that say something are written.
-/

namespace Seedbed.Password

def base64Alphabet : List Char :=
  "ABCDEFGHIJKLMNOPQRSTUVWXYZabcdefghijklmnopqrstuvwxyz0123456789+/".toList

def base64Char (value : Nat) : Char := base64Alphabet.getD (value % 64) 'A'

def base64 : List UInt8 → List Char
  | a :: b :: c :: rest =>
    let group := a.toNat * 65536 + b.toNat * 256 + c.toNat
    base64Char (group / 262144) :: base64Char (group / 4096) :: base64Char (group / 64) ::
      base64Char group :: base64 rest
  | [a, b] =>
    let group := a.toNat * 65536 + b.toNat * 256
    [base64Char (group / 262144), base64Char (group / 4096), base64Char (group / 64)]
  | [a] =>
    let group := a.toNat * 65536
    [base64Char (group / 262144), base64Char (group / 4096)]
  | [] => []

def octetsOfValues : List Nat → List UInt8
  | a :: b :: c :: d :: rest =>
    let group := a * 262144 + b * 4096 + c * 64 + d
    UInt8.ofNat (group / 65536) :: UInt8.ofNat (group / 256) :: UInt8.ofNat group ::
      octetsOfValues rest
  | [a, b, c] =>
    let group := a * 262144 + b * 4096 + c * 64
    [UInt8.ofNat (group / 65536), UInt8.ofNat (group / 256)]
  | [a, b] => [UInt8.ofNat ((a * 262144 + b * 4096) / 65536)]
  | _ => []

def ofBase64? (text : List Char) : Option (List UInt8) :=
  (text.mapM fun c => base64Alphabet.idxOf? c).map octetsOfValues

end Seedbed.Password

/-!
# Octets of words

Words of 32 and 64 bits as octets, the lowest first.
-/

namespace Seedbed.Password

/-- Some octets of a number, the lowest first. -/
def octets (value : Nat) : (count : Nat) → List UInt8
  | 0 => []
  | count + 1 => UInt8.ofNat (value % 256) :: octets (value / 256) count

def octets32 (value : Nat) : List UInt8 := octets value 4

def octets64 (word : UInt64) : List UInt8 := octets word.toNat 8

def word64 (bytes : List UInt8) : UInt64 :=
  bytes.foldr (fun byte word => word <<< 8 ||| byte.toUInt64) 0

/-- The long words of a text of octets; the last one is filled up with zeros. The fuel bounds their
number. -/
def words64 (bytes : List UInt8) : (fuel : Nat) → List UInt64
  | 0 => []
  | fuel + 1 => if bytes.isEmpty then [] else word64 (bytes.take 8) :: words64 (bytes.drop 8) fuel

@[inline]
def rotateRight (word count : UInt64) : UInt64 := word >>> count ||| word <<< (64 - count)

end Seedbed.Password

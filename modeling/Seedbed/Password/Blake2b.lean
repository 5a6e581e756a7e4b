import Seedbed.Password.Octets
import Seedbed.Power

/-!
# Digests

A digest of up to 64 octets: eight words that take in the text block by block, each block in twelve
rounds that read its words in an order of their own.
-/

namespace Seedbed.Password

def startWords : List UInt64 :=
  [0x6a09e667f3bcc908, 0xbb67ae8584caa73b, 0x3c6ef372fe94f82b, 0xa54ff53a5f1d36f1,
    0x510e527fade682d1, 0x9b05688c2b3e6c1f, 0x1f83d9abfb41bd6b, 0x5be0cd19137e2179]

/-- The order in which each round reads the words of a block; after ten rounds it starts over. -/
def wordOrders : List (List Nat) :=
  [[0, 1, 2, 3, 4, 5, 6, 7, 8, 9, 10, 11, 12, 13, 14, 15],
    [14, 10, 4, 8, 9, 15, 13, 6, 1, 12, 0, 2, 11, 7, 5, 3],
    [11, 8, 12, 0, 5, 2, 15, 13, 10, 14, 3, 6, 7, 1, 9, 4],
    [7, 9, 3, 1, 13, 12, 11, 14, 2, 6, 5, 10, 4, 0, 15, 8],
    [9, 0, 5, 7, 2, 4, 10, 15, 14, 1, 11, 12, 6, 8, 3, 13],
    [2, 12, 6, 10, 0, 11, 8, 3, 4, 13, 7, 5, 15, 14, 1, 9],
    [12, 5, 1, 15, 14, 13, 4, 10, 0, 7, 6, 3, 9, 2, 8, 11],
    [13, 11, 7, 14, 12, 1, 3, 9, 5, 0, 15, 4, 8, 6, 2, 10],
    [6, 15, 14, 9, 11, 3, 0, 8, 12, 2, 13, 7, 1, 4, 10, 5],
    [10, 2, 8, 4, 7, 6, 1, 5, 15, 11, 9, 14, 3, 12, 13, 0]]

def digestRounds : Nat := 12

/-- Which four words are mixed together in a round: the columns, then the diagonals. -/
def mixedPlaces : List (Nat × Nat × Nat × Nat) :=
  [(0, 4, 8, 12), (1, 5, 9, 13), (2, 6, 10, 14), (3, 7, 11, 15),
    (0, 5, 10, 15), (1, 6, 11, 12), (2, 7, 8, 13), (3, 4, 9, 14)]

def mixWords (v : Array UInt64) (places : Nat × Nat × Nat × Nat) (x y : UInt64) : Array UInt64 :=
  let (i, j, k, l) := places
  let a := v.getD i 0 + v.getD j 0 + x
  let d := rotateRight (v.getD l 0 ^^^ a) 32
  let c := v.getD k 0 + d
  let b := rotateRight (v.getD j 0 ^^^ c) 24
  let a := a + b + y
  let d := rotateRight (d ^^^ a) 16
  let c := c + d
  let b := rotateRight (b ^^^ c) 63
  (((v.setIfInBounds i a).setIfInBounds j b).setIfInBounds k c).setIfInBounds l d

def digestRound (block : Array UInt64) (v : Array UInt64) (round : Nat) : Array UInt64 :=
  let order := wordOrders.getD (round % wordOrders.length) []
  mixedPlaces.zipIdx.foldl (fun v (places, step) =>
    mixWords v places (block.getD (order.getD (2 * step) 0) 0)
      (block.getD (order.getD (2 * step + 1) 0) 0)) v

/-- Takes in a block, the last octet of which is the `count`-th of the text. -/
def takeBlock (state block : List UInt64) (count : Nat) (last : Bool) : List UInt64 :=
  let low := UInt64.ofNat count
  let high := UInt64.ofNat (count / 2 ^ (64 : Nat))
  let start := startWords.toArray
  let lower := (((start.modify 4 (· ^^^ low)).modify 5 (· ^^^ high)).modify 6
    fun word => if last then ~~~word else word)
  let v := (List.range digestRounds).foldl (digestRound block.toArray) (state.toArray ++ lower)
  state.zipIdx.map fun (word, i) => word ^^^ v.getD i 0 ^^^ v.getD (i + 8) 0

def blockSize : Nat := 128

/-- The words of a block; a short one is filled up with zeros. -/
def blockWords (bytes : List UInt8) : List UInt64 :=
  (words64 (bytes ++ List.replicate (blockSize - bytes.length) 0) 16)

/-- Takes in the rest of a text, of which `count` octets came before. -/
def takeBlocks (state : List UInt64) (count : Nat) (bytes : List UInt8) : List UInt64 :=
  if bytes.length ≤ blockSize then takeBlock state (blockWords bytes) (count + bytes.length) true
  else
    takeBlocks (takeBlock state (blockWords (bytes.take blockSize)) (count + blockSize) false)
      (count + blockSize) (bytes.drop blockSize)
  termination_by bytes.length
  decreasing_by
    simp only [blockSize, List.length_drop] at *
    omega

/-- The digest of a text, of up to 64 octets. -/
def digest (size : Nat) (bytes : List UInt8) : List UInt8 :=
  let first := 0x01010000 ^^^ UInt64.ofNat size
  let state := startWords.modifyHead (· ^^^ first)
  ((takeBlocks state 0 bytes).flatMap octets64).take size

/-- Digests in a chain: half of each, and all of the last. -/
def digestChain : (count : Nat) → (bytes : List UInt8) → List UInt8
  | 0, bytes => bytes
  | count + 1, bytes => bytes.take 32 ++ digestChain count (digest 64 bytes)

/-- A digest of any length. A long one is made of a chain of digests. -/
def longDigest (size : Nat) (bytes : List UInt8) : List UInt8 :=
  let bytes := octets32 size ++ bytes
  if size ≤ 64 then digest size bytes
  else digestChain ((size + 31) / 32 - 2) (digest 64 bytes) |>.take size

end Seedbed.Password

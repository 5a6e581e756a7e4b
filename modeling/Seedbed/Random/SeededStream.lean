import Seedbed.Random.Source

/-!
# Seeded streams

A stream of words that a seed determines. The seed is stretched to a key of eight words by a
congruential generator, and the words are the blocks of a twelve-round cipher that counts up from
zero under that key.
-/

namespace Seedbed

/-! ## Blocks -/

structure Row where
  w0 : UInt32
  w1 : UInt32
  w2 : UInt32
  w3 : UInt32
  deriving DecidableEq, Repr, Inhabited

namespace Row

def zip (f : UInt32 → UInt32 → UInt32) (a b : Row) : Row :=
  ⟨f a.w0 b.w0, f a.w1 b.w1, f a.w2 b.w2, f a.w3 b.w3⟩

/-- Moves the words of a row to the left by one, two or three places. -/
def turn1 (a : Row) : Row := ⟨a.w1, a.w2, a.w3, a.w0⟩
def turn2 (a : Row) : Row := ⟨a.w2, a.w3, a.w0, a.w1⟩
def turn3 (a : Row) : Row := ⟨a.w3, a.w0, a.w1, a.w2⟩

/-- The exclusive or of two rows, with every word rotated to the left. -/
def xorRotated (count : UInt32) : Row → Row → Row :=
  zip fun a b => let x := a ^^^ b; x <<< count ||| x >>> (32 - count)

def words (a : Row) : List UInt32 := [a.w0, a.w1, a.w2, a.w3]

end Row

structure Block where
  a : Row
  b : Row
  c : Row
  d : Row
  deriving DecidableEq, Repr, Inhabited

namespace Block

/-- Mixes the four columns of a block, each with itself. -/
def mix (block : Block) : Block :=
  let a := block.a.zip (· + ·) block.b
  let d := block.d.xorRotated 16 a
  let c := block.c.zip (· + ·) d
  let b := block.b.xorRotated 12 c
  let a := a.zip (· + ·) b
  let d := d.xorRotated 8 a
  let c := c.zip (· + ·) d
  let b := b.xorRotated 7 c
  ⟨a, b, c, d⟩

/-- Two rounds: the columns are mixed, then the diagonals. -/
def twoRounds (block : Block) : Block :=
  let mixed := block.mix
  let slanted := { mixed with b := mixed.b.turn1, c := mixed.c.turn2, d := mixed.d.turn3 }.mix
  { slanted with b := slanted.b.turn3, c := slanted.c.turn2, d := slanted.d.turn1 }

def doubleRounds : Nat := 6

/-- A block after all rounds, added to itself before them. -/
def scrambled (block : Block) : Block :=
  let rounds := Nat.repeat twoRounds doubleRounds block
  ⟨block.a.zip (· + ·) rounds.a, block.b.zip (· + ·) rounds.b,
    block.c.zip (· + ·) rounds.c, block.d.zip (· + ·) rounds.d⟩

def words (block : Block) : List UInt32 :=
  block.a.words ++ block.b.words ++ block.c.words ++ block.d.words

end Block

/-! ## Keys -/

/-- One step of the generator that stretches a seed, and the word that its state stands for: some
bits of the state, rotated by as much as its topmost bits say. -/
def stretch (state : UInt64) : UInt32 × UInt64 :=
  let state := state * 6364136223846793005 + 11634580027462260723
  let x := (((state >>> 18) ^^^ state) >>> 27).toUInt32
  let count := (state >>> 59).toUInt32
  (x >>> count ||| x <<< (32 - count), state)

def stretchRow (state : UInt64) : Row × UInt64 :=
  let (w0, state) := stretch state
  let (w1, state) := stretch state
  let (w2, state) := stretch state
  let (w3, state) := stretch state
  (⟨w0, w1, w2, w3⟩, state)

/-! ## Streams -/

/-- A stream of words: its key, the number of the next block, and the words left of the last one. -/
structure SeededStream where
  low : Row
  high : Row
  counter : UInt64 := 0
  pending : List UInt32 := []
  deriving DecidableEq, Repr, Inhabited

namespace SeededStream

def ofSeed (seed : UInt64) : SeededStream :=
  let (low, state) := stretchRow seed
  let (high, _) := stretchRow state
  { low, high }

/-- The next block before its rounds. -/
def block (stream : SeededStream) : Block where
  a := ⟨0x61707865, 0x3320646e, 0x79622d32, 0x6b206574⟩
  b := stream.low
  c := stream.high
  d := ⟨stream.counter.toUInt32, (stream.counter >>> 32).toUInt32, 0, 0⟩

def next (stream : SeededStream) : UInt32 × SeededStream :=
  match stream.pending with
  | word :: pending => (word, { stream with pending })
  | [] =>
    let words := stream.block.scrambled.words
    (words.headD 0, { stream with counter := stream.counter + 1, pending := words.tail })

/-- The next two words of a stream as one, the lower half first. -/
def next2 (stream : SeededStream) : UInt64 × SeededStream :=
  let (low, stream) := stream.next
  let (high, stream) := stream.next
  (high.toUInt64 <<< 32 ||| low.toUInt64, stream)

instance : RandomSource SeededStream where
  word32 := next
  word64 := next2

end SeededStream
end Seedbed

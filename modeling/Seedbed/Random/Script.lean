import Seedbed.Random.SeededStream

/-!
# Scripts

A source that gives prescribed words first. After them it mixes the steps of a counter. A short word
is the lower half of a long one.
-/

namespace Seedbed

/-- Prescribed words, and the state of the counter after them. -/
structure Script where
  words : List UInt64
  state : UInt64 := 0
  deriving DecidableEq, Repr, Inhabited

namespace Script

def mixed (state : UInt64) : UInt64 :=
  let z := (state ^^^ (state >>> 30)) * 0xBF58476D1CE4E5B9
  let z := (z ^^^ (z >>> 27)) * 0x94D049BB133111EB
  z ^^^ (z >>> 31)

def next (script : Script) : UInt64 × Script :=
  match script.words with
  | word :: words => (word, { script with words })
  | [] =>
    let state := script.state + 0x9E3779B97F4A7C15
    (mixed state, { script with state })

instance : RandomSource Script where
  word32 script := let (word, script) := script.next; (word.toUInt32, script)
  word64 := next

end Script

inductive AnySource where
  | seeded (stream : SeededStream)
  | scripted (script : Script)
  deriving DecidableEq, Repr

instance : RandomSource AnySource where
  word32
    | .seeded stream => let (word, stream) := RandomSource.word32 stream; (word, .seeded stream)
    | .scripted script => let (word, script) := RandomSource.word32 script; (word, .scripted script)
  word64
    | .seeded stream => let (word, stream) := RandomSource.word64 stream; (word, .seeded stream)
    | .scripted script => let (word, script) := RandomSource.word64 script; (word, .scripted script)

end Seedbed

/-!
# Punycode

A text of any code points as ASCII: its ASCII characters first, then the others as a run of numbers
that say where each is inserted. The numbers have variable length, with a bias that adapts to the
size of the last one.
-/

namespace Seedbed.Url.Punycode

def adapt (delta count : Nat) (first : Bool) : Nat :=
  let delta := if first then delta / 700 else delta / 2
  reduce 64 (delta + delta / count) 0
where
  /-- Divides until the number is small, and counts the divisions. -/
  reduce : (fuel delta steps : Nat) → Nat
    | 0, delta, steps => steps + 36 * delta / (delta + 38)
    | fuel + 1, delta, steps =>
      if delta > 455 then reduce fuel (delta / 35) (steps + 36)
      else steps + 36 * delta / (delta + 38)

/-- The least digit that ends a number, at a place with the given weight. -/
def threshold (place bias : Nat) : Nat :=
  if place ≤ bias then 1 else if bias + 26 ≤ place then 26 else place - bias

/-! ## Encoding -/

/-- The character of a digit: letters, then decimal digits. -/
def digitChar (digit : Nat) : Char :=
  if digit < 26 then Char.ofNat ('a'.toNat + digit) else Char.ofNat ('0'.toNat + (digit - 26))

/-- A number with variable length, from the given place on. -/
def encodeNumber : (fuel place bias number : Nat) → List Char
  | 0, _, _, number => [digitChar number]
  | fuel + 1, place, bias, number =>
    let t := threshold place bias
    if number < t then [digitChar number]
    else
      digitChar (t + (number - t) % (36 - t)) ::
        encodeNumber fuel (place + 36) bias ((number - t) / (36 - t))

/-- State of an encoder: code points written, distance since the last one, bias. -/
structure Encoder where
  written : Nat
  delta : Nat
  bias : Nat
  output : List Char

/-- Passes over one code point of the input while those equal to `current` are written. -/
def Encoder.pass (basic current : Nat) (encoder : Encoder) (code : Nat) : Encoder :=
  if code < current then { encoder with delta := encoder.delta + 1 }
  else if code = current then
    { written := encoder.written + 1
      delta := 0
      bias := adapt encoder.delta (encoder.written + 1) (encoder.written == basic)
      output := encoder.output ++ encodeNumber 64 36 encoder.bias encoder.delta }
  else encoder

/-- Writes the code points from `current` on, smallest first. -/
def encodeFrom : (fuel : Nat) → (input : List Nat) → (basic current : Nat) → Encoder → List Char
  | 0, _, _, _, encoder => encoder.output
  | fuel + 1, input, basic, current, encoder =>
    match (input.filter (current ≤ ·)).min? with
    | none => encoder.output
    | some next =>
      let start :=
        { encoder with delta := encoder.delta + (next - current) * (encoder.written + 1) }
      let done := input.foldl (Encoder.pass basic next) start
      encodeFrom fuel input basic (next + 1) { done with delta := done.delta + 1 }

def encode (input : List Nat) : List Char :=
  let basic := (input.filter (· < 128)).map Char.ofNat
  let start := if basic.isEmpty then [] else basic ++ ['-']
  encodeFrom input.length input basic.length 128 ⟨basic.length, 0, 72, start⟩

/-! ## Decoding -/

def digitValue? (c : Char) : Option Nat :=
  if c.isAlpha then some (c.toLower.toNat - 'a'.toNat)
  else if c.isDigit then some (c.toNat - '0'.toNat + 26)
  else none

/-- The bound of the weights and sums in decoding. -/
def numberBound : Nat := 0x100000000

def decodeNumber? (place bias weight : Nat) : List Char → Option (Nat × List Char)
  | [] => none
  | c :: rest => do
    let digit ← digitValue? c
    let t := threshold place bias
    if digit < t then some (digit * weight, rest)
    else if weight * (36 - t) ≥ numberBound then none
    else
      let (higher, rest) ← decodeNumber? (place + 36) bias (weight * (36 - t)) rest
      some (digit * weight + higher, rest)

/-- Inserts the code points that the rest of a text tells. -/
def decodeFrom? : (fuel position current bias : Nat) → (output : List Nat) → List Char →
    Option (List Nat)
  | 0, _, _, _, _, _ => none
  | _ + 1, _, _, _, output, [] => some output
  | fuel + 1, position, current, bias, output, text => do
    let (delta, rest) ← decodeNumber? 36 bias 1 text
    let count := output.length + 1
    let sum := position + delta
    guard (sum < numberBound)
    let code := current + sum / count
    let place := sum % count
    if code > 0x10FFFF ∨ (0xD800 ≤ code ∧ code ≤ 0xDFFF) then none
    else
      decodeFrom? fuel (place + 1) code (adapt delta count (position == 0))
        (output.take place ++ code :: output.drop place) rest

/-- The code points that an ASCII form stands for, if it is one: its ASCII characters, if it has
any, end at the last hyphen. -/
def decode? (text : List Char) : Option (List Nat) :=
  let (tail, basic) := text.reverse.span (· != '-')
  match basic with
  | ['-'] => none
  | _ => decodeFrom? (text.length + 1) 0 128 72 (basic.tail.reverse.map Char.toNat) tail.reverse

end Seedbed.Url.Punycode

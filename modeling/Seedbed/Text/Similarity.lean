/-!
# Likeness of texts

How alike two texts are: which characters they share at nearby places, and how many of these stand
in another order. The measure is a fraction from zero to one, the mean of three shares: of the first
text's characters that are matched, of the second's, and of the matches that stand in order.
-/

namespace Seedbed.Text

/-- Characters, each with whether it is matched. -/
abbrev Marked := List (Char × Bool)

/-- Marks the first character from a place up to another that is the given one and is not matched
yet. `index` is the place of the first of the characters. -/
def mark? (c : Char) (first last : Nat) : (index : Nat) → Marked → Option Marked
  | _, [] => none
  | index, (d, matched) :: rest =>
    if first ≤ index && index ≤ last && d == c && !matched then some ((d, true) :: rest)
    else (mark? c first last (index + 1) rest).map ((d, matched) :: ·)

/-- Matches characters with those of another text that stand at most `reach` places away. -/
def markAll (reach : Nat) : (index : Nat) → List Char → Marked → Marked × Marked
  | _, [], others => ([], others)
  | index, c :: rest, others =>
    match mark? c (index - reach) (index + reach) 0 others with
    | some others =>
      let (marked, others) := markAll reach (index + 1) rest others
      ((c, true) :: marked, others)
    | none =>
      let (marked, others) := markAll reach (index + 1) rest others
      ((c, false) :: marked, others)

def matched (marked : Marked) : List Char := (marked.filter (·.2)).map (·.1)

/-- How alike two texts are, as a numerator and a denominator. -/
def similarity (a b : List Char) : Nat × Nat :=
  if a.isEmpty && b.isEmpty then (1, 1)
  else
    let reach := max a.length b.length / 2 - 1
    let (marked, others) := markAll reach 0 a (b.map (·, false))
    let first := matched marked
    let common := first.length
    if common = 0 then (0, 1)
    else
      let displaced := ((first.zip (matched others)).filter fun (c, d) => c != d).length / 2
      (common * common * b.length + common * common * a.length +
        (common - displaced) * a.length * b.length, 3 * common * a.length * b.length)

def exceeds (x y : Nat × Nat) : Bool := x.1 * y.2 > y.1 * x.2

/-- How alike a text must be for it to be taken for another: more than this. -/
def alikeBound : Nat × Nat := (7, 10)

/-- The text among some that is most like another, if any is alike; of equals the last. -/
def mostSimilar? (text : String) (candidates : List String) : Option String :=
  let rated := candidates.map fun candidate => (similarity text.toList candidate.toList, candidate)
  ((rated.filter fun (rate, _) => exceeds rate alikeBound).foldl (fun best? (rate, candidate) =>
    if best?.any fun (best, _) => exceeds best rate then best? else some (rate, candidate))
    (none : Option ((Nat × Nat) × String))).map (·.2)

end Seedbed.Text

import Seedbed.Random.Source
import Seedbed.Text.Words

/-!
# Lists of words

A list with at least one word, out of which words are drawn with equal odds for every place.
-/

namespace Seedbed.Fake

/-- A list of words that is not empty. -/
structure WordList where
  first : String
  others : Array String

namespace WordList

/-- A first word, and all words of a text. -/
def ofText (first text : String) : WordList :=
  ⟨first, ((Text.words text).map String.ofList).toArray⟩

def size (list : WordList) : Nat := list.others.size + 1

/-- The word at a place; the first one beyond the end. -/
def get (list : WordList) : Nat → String
  | 0 => list.first
  | place + 1 => list.others.getD place list.first

def pick [RandomSource ρ] (list : WordList) : Draw ρ String :=
  return list.get (← Draw.below32 list.size)

end WordList
end Seedbed.Fake

import Seedbed.Fake.Basic

/-!
# Sizes of lists of words

How many words the lists have. The words of a text are as many as the places in it where a word ends
(`countFrom_eq`), and these can be counted without the words.
-/

namespace Seedbed

namespace Text

/-- Counts the words that end in some letters, on top of some words. A word may have begun before. -/
def countFrom : (begun : Bool) → (counted : Nat) → List Char → Nat
  | begun, counted, [] => if begun then counted + 1 else counted
  | begun, counted, c :: rest =>
    if isSeparator c then countFrom false (if begun then counted + 1 else counted) rest
    else countFrom true counted rest

theorem countFrom_eq (pending text : List Char) (counted : Nat) :
    countFrom (!pending.isEmpty) counted text = counted + (wordsFrom pending text).length := by
  induction text generalizing pending counted with
  | nil => cases pending <;> rfl
  | cons c rest ih =>
    unfold wordsFrom countFrom
    split
    · cases pending with
      | nil => exact ih [] counted
      | cons => exact (ih [] (counted + 1)).trans (Nat.succ_add_eq_add_succ ..)
    · exact ih (c :: pending) counted

theorem toList_part (text : String) (letters : List Char) :
    (text ++ String.ofList letters).toList = text.toList ++ letters := by
  rw [String.toList_append, String.toList_ofList]

end Text

namespace Fake

theorem WordList.size_ofText (first text : String) :
    (WordList.ofText first text).size = Text.countFrom false 1 text.toList := by
  rw [size, ofText, List.size_toArray, List.length_map, Text.words, Nat.add_comm]
  exact (Text.countFrom_eq [] text.toList 1).symm

set_option maxRecDepth 10000 in
theorem size_firstNames : firstNames.size = 3007 := by
  rw [firstNames, WordList.size_ofText]
  repeat rw [Text.toList_part]
  rw [String.toList_ofList]
  repeat rw [List.append_assoc]
  decide +kernel

set_option maxRecDepth 10000 in
theorem size_lastNames : lastNames.size = 474 := by
  rw [lastNames, WordList.size_ofText, Text.toList_part, String.toList_ofList]
  decide +kernel

set_option maxRecDepth 10000 in
theorem size_proseWords : proseWords.size = 249 := by
  rw [proseWords, WordList.size_ofText, String.toList_ofList]
  decide +kernel

theorem size_providers : providers.size = 3 := by
  rw [providers, WordList.size_ofText, String.toList_ofList]
  decide +kernel

end Fake
end Seedbed

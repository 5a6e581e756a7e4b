import Seedbed.Ulid

/-!
# The order of identifiers

Identifiers are in the same order as their texts (`text_lt_text`): a text has a fixed number of
digits, the most significant first, and the characters for digits are in their usual order.
-/

namespace Seedbed.Ulid

/-- The character for a digit. -/
def letter (digit : Nat) : Char := alphabet.getD digit '0'

/-- The characters for the last digits of a number. -/
def letters (count value : Nat) : List Char :=
  (List.range count).map fun place => letter (value / 32 ^ (count - 1 - place) % 32)

theorem text_toList (id : Ulid) : id.text.toList = letters textLength id.value :=
  String.toList_ofList

theorem length_text (id : Ulid) : id.text.length = textLength := by
  simp [text]

theorem letter_lt_letter {small large : Nat} (smaller : small < large) (digit : large < 32) :
    letter small < letter large := by
  have ordered : ∀ large < 32, ∀ small < large, letter small < letter large := by decide
  exact ordered large digit small smaller

/-- The first of some digits, and the others. -/
theorem letters_succ (count value : Nat) :
    letters (count + 1) value = letter (value / 32 ^ count % 32) :: letters count value := by
  simp only [letters, List.range_succ_eq_map, List.map_cons, List.map_map, Nat.add_sub_cancel,
    Nat.sub_zero, List.cons.injEq, true_and]
  refine List.map_congr_left fun place _ => ?_
  have same : count - (place + 1) = count - 1 - place := by omega
  simp only [Function.comp, Nat.succ_eq_add_one, same]

/-- What the last digits stand for decides the order of their characters. -/
theorem letters_lt_letters {count small large : Nat}
    (smaller : small % 32 ^ count < large % 32 ^ count) :
    letters count small < letters count large := by
  induction count with
  | zero => simp [Nat.mod_one] at smaller
  | succ count ih =>
    rw [letters_succ, letters_succ, List.cons_lt_cons_iff]
    rw [Nat.mod_pow_succ, Nat.mod_pow_succ] at smaller
    have rest := Nat.mod_lt large (Nat.pow_pos (n := count) (show 0 < 32 by decide))
    have digit := Nat.mod_lt (large / 32 ^ count) (show 0 < 32 by decide)
    rcases Nat.lt_trichotomy (small / 32 ^ count % 32) (large / 32 ^ count % 32) with
      less | same | more
    · exact .inl (letter_lt_letter less digit)
    · rw [same] at smaller ⊢
      exact .inr ⟨rfl, ih (Nat.lt_of_add_lt_add_right smaller)⟩
    · -- A greater first digit outweighs all the others.
      have outweighs : 32 ^ count * (large / 32 ^ count % 32) + 32 ^ count ≤
          32 ^ count * (small / 32 ^ count % 32) := Nat.mul_le_mul_left (32 ^ count) more
      omega

/-- Texts of identifiers are in the same order as the identifiers. -/
theorem text_lt_text {earlier later : Ulid} (less : earlier.value < later.value) :
    earlier.text < later.text := by
  have fits (id : Ulid) : id.value % 32 ^ textLength = id.value :=
    Nat.mod_eq_of_lt (Nat.lt_of_lt_of_le id.value_lt (by decide))
  rw [String.lt_iff, text_toList, text_toList]
  exact letters_lt_letters (by rw [fits, fits]; exact less)

end Seedbed.Ulid

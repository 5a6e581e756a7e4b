import Seedbed.Proofs.Ulid.Order

/-!
# Reading identifiers

The text of an identifier is read as that identifier again (`ofText?_text`): every character is
found in the alphabet at the place of its digit, and the digits add up to the number, as it has no
more of them.
-/

namespace Seedbed.Ulid

/-- The last digits of a number, the most significant first. -/
def digits : (count : Nat) → (value : Nat) → List Nat
  | 0, _ => []
  | count + 1, value => value / 32 ^ count % 32 :: digits count value

theorem length_digits (count value : Nat) : (digits count value).length = count := by
  induction count with
  | zero => rfl
  | succ count ih => rw [digits, List.length_cons, ih]

/-- A character stands for the digit that it was made of. -/
theorem idxOf?_letter {digit : Nat} (small : digit < 32) :
    alphabet.idxOf? (letter digit).toUpper = some digit := by
  have placed : ∀ digit < 32, alphabet.idxOf? (letter digit).toUpper = some digit := by decide
  exact placed digit small

theorem mapM_letters (count value : Nat) :
    (letters count value).mapM (fun c => alphabet.idxOf? c.toUpper) =
      some (digits count value) := by
  induction count with
  | zero => rfl
  | succ count ih =>
    have first := idxOf?_letter (Nat.mod_lt (value / 32 ^ count) (show 0 < 32 by decide))
    rw [letters_succ, List.mapM_cons, first, ih, digits]
    rfl

/-- After others, the last digits of a number add what the number is without its first digits. -/
theorem foldl_digits (count value earlier : Nat) :
    (digits count value).foldl (· * 32 + ·) earlier =
      earlier * 32 ^ count + value % 32 ^ count := by
  induction count generalizing earlier with
  | zero => simp [digits, Nat.mod_one]
  | succ count ih =>
    rw [digits, List.foldl_cons, ih, Nat.mod_pow_succ, Nat.pow_succ, Nat.add_mul, Nat.mul_assoc,
      Nat.mul_comm 32, Nat.mul_comm (value / 32 ^ count % 32), Nat.add_assoc,
      Nat.add_comm (32 ^ count * _)]

/-- An identifier is read from its text. -/
theorem ofText?_text (id : Ulid) : ofText? id.text = some id := by
  have fits : id.value % 32 ^ textLength = id.value :=
    Nat.mod_eq_of_lt (Nat.lt_of_lt_of_le id.value_lt (by decide))
  have value : (digits textLength id.value).foldl (· * 32 + ·) 0 = id.value := by
    rw [foldl_digits, fits, Nat.zero_mul, Nat.zero_add]
  simp only [ofText?, text_toList, mapM_letters, Option.bind_eq_bind, Option.bind_some, value,
    length_digits, if_true, dif_pos id.value_lt]

end Seedbed.Ulid

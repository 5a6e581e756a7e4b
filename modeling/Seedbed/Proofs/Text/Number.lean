import Seedbed.Text.Words

/-!
# Numbers that are written and read

A number that is written in a base up to sixteen is read back from its digits
(`number?_toDigits`). Its digits are characters of ASCII, as all letters and digits are.
-/

namespace Seedbed.Text

theorem ascii_of_isAlphanum {c : Char} (alphanum : c.isAlphanum) : c.toNat < 128 := by
  have bounded {last : Char} (below : c.val ≤ last.val) (ascii : last.toNat < 128) :
      c.toNat < 128 := Nat.lt_of_le_of_lt (UInt32.le_iff_toNat_le.mp below) ascii
  have ranges : (decide ('A'.val ≤ c.val ∧ c.val ≤ 'Z'.val) ||
      (decide ('a'.val ≤ c.val) && decide (c.val ≤ 'z'.val))) ||
      (decide ('0'.val ≤ c.val) && decide (c.val ≤ '9'.val)) := alphanum
  simp only [Bool.or_eq_true, Bool.and_eq_true, decide_eq_true_eq] at ranges
  rcases ranges with (⟨-, below⟩ | ⟨-, below⟩) | ⟨-, below⟩ <;> exact bounded below (by decide)

/-- The digits of a base are those of sixteen that are small enough. -/
theorem digitValue?_digitChar {base digit : Nat} (small : digit < base) (most : base ≤ 16) :
    digitValue? base (Nat.digitChar digit) = some digit := by
  have value : ∀ digit < 16, digitValue? 16 (Nat.digitChar digit) = some digit := by decide
  have known := value digit (Nat.lt_of_lt_of_le small most)
  simp only [digitValue?, Option.filter_eq_some_iff, decide_eq_true_eq] at known ⊢
  exact ⟨known.1, small⟩

theorem foldlM_toDigits {base : Nat} (least : 1 < base) (most : base ≤ 16) (number : Nat) :
    (Nat.toDigits base number).foldlM
      (fun value c => (digitValue? base c).map (value * base + ·)) 0 = some number := by
  induction number using Nat.strongRecOn with
  | ind number ih =>
    by_cases small : number < base
    · simp [Nat.toDigits_of_lt_base small, digitValue?_digitChar small most]
    · have positive : 0 < base := Nat.zero_lt_of_lt least
      have enough : base ≤ number := Nat.le_of_not_lt small
      have less : number / base < number :=
        Nat.div_lt_self (Nat.lt_of_lt_of_le positive enough) least
      rw [Nat.toDigits_of_base_le least enough, List.foldlM_append, ih _ less]
      simp [digitValue?_digitChar (Nat.mod_lt number positive) most, Nat.div_add_mod']

/-- A number is read back from its digits. -/
theorem number?_toDigits {base : Nat} (least : 1 < base) (most : base ≤ 16) (number : Nat) :
    number? base (Nat.toDigits base number) = some number := by
  rw [← foldlM_toDigits least most number, number?.eq_def]
  cases digits : Nat.toDigits base number with
  | nil => exact absurd digits Nat.toDigits_ne_nil
  | cons digit digits => rfl

/-- Every digit of a number stands for a number below the base. -/
theorem exists_digitChar_of_mem {base number : Nat} {c : Char} (least : 1 < base)
    (member : c ∈ Nat.toDigits base number) : ∃ digit < base, c = Nat.digitChar digit := by
  induction number using Nat.strongRecOn with
  | ind number ih =>
    have positive : 0 < base := Nat.zero_lt_of_lt least
    by_cases small : number < base
    · rw [Nat.toDigits_of_lt_base small, List.mem_singleton] at member
      exact ⟨number, small, member⟩
    · have enough : base ≤ number := Nat.le_of_not_lt small
      rw [Nat.toDigits_of_base_le least enough, List.mem_append, List.mem_singleton] at member
      rcases member with member | last
      · have less := Nat.div_lt_self (Nat.lt_of_lt_of_le positive enough) least
        exact ih _ less member
      · exact ⟨number % base, Nat.mod_lt number positive, last⟩

end Seedbed.Text

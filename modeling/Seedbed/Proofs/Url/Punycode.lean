import Mathlib.Algebra.Order.Ring.Nat
import Mathlib.Data.List.Count
import Seedbed.Power
import Seedbed.Url.Punycode

/-!
# What coded labels are written with

A label is coded with letters, digits and hyphens, besides the ASCII characters of its own
(`mem_encode`). Every number is written with digits below 36, because its places are never used up:
the distance that an encoder has come since the last insertion is bounded by the code points it has
passed (`Encoder.Within`), and that is far below what the places can hold.
-/

namespace Seedbed.Url.Punycode

/-! ## Digits -/

/-- Whether a character is a digit of a coded number. -/
def isDigitChar (c : Char) : Bool := c.isLower || c.isDigit

theorem isDigitChar_digitChar {digit : Nat} (small : digit < 36) :
    isDigitChar (digitChar digit) := by
  have all : ∀ digit < 36, isDigitChar (digitChar digit) := by decide
  exact all digit small

theorem threshold_le (place bias : Nat) : threshold place bias ≤ 26 := by
  unfold threshold
  split_ifs <;> omega

/-- Each place takes at least a factor of ten. -/
theorem isDigitChar_of_mem {fuel place bias number : Nat} (small : number < 10 ^ fuel) {c : Char}
    (member : c ∈ encodeNumber fuel place bias number) : isDigitChar c := by
  induction fuel generalizing place number with
  | zero =>
    obtain rfl : number = 0 := by simpa using small
    obtain rfl := List.mem_singleton.mp member
    decide
  | succ fuel ih =>
    have few := threshold_le place bias
    rw [encodeNumber] at member
    generalize threshold place bias = t at few member
    split at member
    · obtain rfl := List.mem_singleton.mp member
      exact isDigitChar_digitChar (by omega)
    · rcases List.mem_cons.mp member with rfl | later
      · have := Nat.mod_lt (number - t) (show 0 < 36 - t by omega)
        exact isDigitChar_digitChar (by omega)
      · refine ih ?_ later
        rw [Nat.pow_succ] at small
        calc (number - t) / (36 - t) ≤ number / 10 :=
              Nat.div_le_div (Nat.sub_le _ _) (by omega) (by omega)
          _ < 10 ^ fuel := by omega

/-! ## Encoders -/

theorem countP_succ (bound : Nat) (codes : List Nat) :
    codes.countP (· < bound) + codes.count bound = codes.countP (· < bound + 1) := by
  induction codes with
  | nil => rfl
  | cons code codes ih =>
    simp only [List.countP_cons, List.count_cons, decide_eq_true_eq, beq_iff_eq]
    split_ifs <;> omega

/-- What a coded label may be written with. -/
def IsCoded (input : List Nat) (c : Char) : Prop := isDigitChar c ∨ c = '-' ∨ c.toNat ∈ input

/-- How far an encoder has come at most. -/
structure Encoder.Within (input : List Nat) (written delta : Nat) (encoder : Encoder) : Prop where
  written : encoder.written ≤ written
  delta : encoder.delta ≤ delta
  output : ∀ c ∈ encoder.output, IsCoded input c

namespace Encoder.Within

variable {input : List Nat} {written delta basic current : Nat} {encoder : Encoder}

theorem pass (within : encoder.Within input written delta) (small : delta < 10 ^ 64) (code : Nat) :
    (encoder.pass basic current code).Within input (written + if code = current then 1 else 0)
      (delta + 1) := by
  obtain ⟨le, near, output⟩ := within
  unfold Encoder.pass
  by_cases same : code = current
  · rw [if_pos same, if_neg (by omega), if_pos same]
    refine ⟨Nat.succ_le_succ le, Nat.zero_le _, List.forall_mem_append.mpr ⟨output, ?_⟩⟩
    exact fun c member => .inl (isDigitChar_of_mem (Nat.lt_of_le_of_lt near small) member)
  · rw [if_neg same, if_neg same]
    split_ifs
    · exact ⟨le, Nat.succ_le_succ near, output⟩
    · exact ⟨le, Nat.le_succ_of_le near, output⟩

theorem foldl (within : encoder.Within input written delta) (codes : List Nat)
    (small : delta + codes.length ≤ 10 ^ 64) :
    (codes.foldl (Encoder.pass basic current) encoder).Within input (written + codes.count current)
      (delta + codes.length) := by
  induction codes generalizing encoder written delta with
  | nil => exact within
  | cons code codes ih =>
    rw [List.length_cons] at small ⊢
    have first : (encoder.pass basic current code).Within input
        (written + if code = current then 1 else 0) (delta + 1) := within.pass (by omega) code
    have next := ih first (by omega)
    rw [List.foldl_cons, List.count_cons]
    simp only [beq_iff_eq]
    convert next using 1 <;> omega

/-- An encoder that stands at a code point has written those before it, and has come no further than
it would with every code point before it at every place. -/
theorem encodeFrom (few : input.length ≤ 1000) (codes : ∀ code ∈ input, code < 0x110000)
    {fuel : Nat}
    (within : encoder.Within input (input.countP (· < current)) (current * (input.length + 1))) :
    ∀ c ∈ Punycode.encodeFrom fuel input basic current encoder, IsCoded input c := by
  induction fuel generalizing encoder current with
  | zero => exact within.output
  | succ fuel ih =>
    rw [Punycode.encodeFrom]
    cases least : (input.filter (current ≤ ·)).min? with
    | none => exact within.output
    | some next =>
      obtain ⟨member, reached⟩ := List.mem_filter.mp (List.min?_mem least)
      have reached : current ≤ next := by simpa using reached
      have below : next < 0x110000 := codes next member
      have counted : input.countP (· < current) ≤ input.length := List.countP_le_length
      obtain ⟨le, near, output⟩ := within
      -- the distance to the next code point
      have start : Encoder.Within input (input.countP (· < current)) (next * (input.length + 1))
          { encoder with delta := encoder.delta + (next - current) * (encoder.written + 1) } := by
        refine ⟨le, ?_, output⟩
        calc encoder.delta + (next - current) * (encoder.written + 1)
            ≤ current * (input.length + 1) + (next - current) * (input.length + 1) := by
              gcongr
              omega
          _ = next * (input.length + 1) := by rw [← Nat.add_mul, Nat.add_sub_cancel' reached]
      have small : next * (input.length + 1) + input.length ≤ 10 ^ 64 := by
        have product : next * (input.length + 1) ≤ 0x110000 * 1001 :=
          Nat.mul_le_mul (Nat.le_of_lt below) (Nat.succ_le_succ few)
        omega
      have done : Encoder.Within input (input.countP (· < current) + input.count next)
          (next * (input.length + 1) + input.length)
          (input.foldl (Encoder.pass basic next)
            { encoder with delta := encoder.delta + (next - current) * (encoder.written + 1) }) :=
        start.foldl input small
      simp only
      refine ih ⟨?_, ?_, done.output⟩
      · calc _ ≤ input.countP (· < current) + input.count next := done.written
          _ ≤ input.countP (· < next) + input.count next := by
            gcongr 1
            exact List.countP_mono_left fun code _ before => by simp_all; omega
          _ = input.countP (· < next + 1) := countP_succ next input
      · calc _ ≤ next * (input.length + 1) + input.length + 1 := Nat.succ_le_succ done.delta
          _ = (next + 1) * (input.length + 1) := by rw [Nat.succ_mul, Nat.add_assoc]

end Encoder.Within

/-- The code points of a label of bounded length are written with digits, hyphens, and those of them
that are in ASCII. -/
theorem mem_encode {input : List Nat} (few : input.length ≤ 1000)
    (codes : ∀ code ∈ input, code < 0x110000) {c : Char} (member : c ∈ encode input) :
    IsCoded input c := by
  have ascii : ∀ code < 128, (Char.ofNat code).toNat = code := by decide
  have basic : ∀ c ∈ (input.filter (· < 128)).map Char.ofNat, IsCoded input c := by
    intro c member
    obtain ⟨code, kept, rfl⟩ := List.mem_map.mp member
    obtain ⟨given, small⟩ := List.mem_filter.mp kept
    rw [IsCoded, ascii code (by simpa using small)]
    exact .inr (.inr given)
  refine Encoder.Within.encodeFrom few codes ⟨?_, Nat.zero_le _, ?_⟩ c member
  · simp [List.countP_eq_length_filter]
  · split
    · nofun
    · exact List.forall_mem_append.mpr ⟨basic, by simp [IsCoded]⟩

end Seedbed.Url.Punycode

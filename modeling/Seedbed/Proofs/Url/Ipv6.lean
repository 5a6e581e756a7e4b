import Seedbed.Proofs.Text.Number
import Seedbed.Url.Ipv6

/-!
# IPv6 addresses that are written and read

What `ipv6Text` writes, `ipv6Groups?` reads back (`ipv6Groups?_ipv6Text`). Groups are read one by
one, as they were written (`readGroups_groupsText`); a `::` stands for the run of zeros that was left
out, which is one of the groups (`isRun_longestZeroRun`).
-/

namespace Seedbed.Url

open Seedbed.Text

/-! ## Groups -/

/-- Whether a character is a digit of a group. -/
def isGroupDigit (c : Char) : Bool := (digitValue? 16 c).isSome

/-- How the reading of a text goes on once the digits of a group are read. -/
def afterDigits (reading : Ipv6Reading) (group : Nat) (text : List Char) :
    (rest : List Char) → Option Ipv6Reading
  | [] => some { reading with tail := reading.tail ++ [group] }
  | '.' :: _ =>
    if reading.taken > 6 then none
    else (dottedGroups? text).map fun groups => { reading with tail := reading.tail ++ groups }
  | ':' :: rest =>
    if rest.isEmpty then none else readGroups { reading with tail := reading.tail ++ [group] } rest
  | _ => none

variable {reading : Ipv6Reading} {group : Nat} {groups : List Nat}

theorem readGroups_digits {digits rest : List Char} (some : digits ≠ [])
    (hex : ∀ c ∈ digits, isGroupDigit c) (few : digits.length ≤ 4)
    (room : reading.taken < 8) (stops : ∀ c, rest.head? = .some c → isGroupDigit c = false) :
    readGroups reading (digits ++ rest) =
      afterDigits reading ((number? 16 digits).getD 0) (digits ++ rest) rest := by
  have taken : ((digits ++ rest).takeWhile (digitValue? 16 · |>.isSome)).take 4 = digits := by
    show ((digits ++ rest).takeWhile isGroupDigit).take 4 = digits
    have none : rest.takeWhile isGroupDigit = [] := by
      cases rest with
      | nil => rfl
      | cons c rest =>
        rw [List.takeWhile_cons_of_neg (by rw [stops c rfl]; exact Bool.false_ne_true)]
    rw [List.takeWhile_append_of_pos hex, none, List.append_nil, List.take_of_length_le few]
  have head : (digits ++ rest).head? ≠ .some ':' := by
    cases digits with
    | nil => exact absurd rfl some
    | cons c digits =>
      intro same
      have hex := hex c List.mem_cons_self
      rw [Option.some.inj same] at hex
      exact absurd hex (by decide)
  have notEmpty : (digits ++ rest).isEmpty = false := by
    cases digits with
    | nil => exact absurd rfl some
    | cons c digits => rfl
  have after : (digits ++ rest).drop digits.length = rest := List.drop_left
  have nonempty : digits.isEmpty = false := by rwa [List.isEmpty_eq_false_iff]
  rw [readGroups.eq_def, if_neg (by rw [notEmpty]; exact Bool.false_ne_true),
    if_neg (Nat.ne_of_lt room), if_neg head]
  simp only [taken]
  split
  · rename_i shape
    rw [taken, after] at shape
    rw [shape, afterDigits]
  · rename_i shape
    rw [taken, after] at shape
    simp only [shape, afterDigits, nonempty, Bool.false_eq_true, false_or]
  · rename_i shape
    rw [taken, after] at shape
    rw [shape, afterDigits]
  · rename_i noEnd noDot noColon
    rw [taken, after] at noEnd noDot noColon
    unfold afterDigits
    split
    · exact absurd rfl noEnd
    · exact absurd rfl (noDot _)
    · exact absurd rfl (noColon _)
    · rfl

theorem isGroupDigit_of_mem {number : Nat} {c : Char} (member : c ∈ Nat.toDigits 16 number) :
    isGroupDigit c := by
  obtain ⟨digit, small, rfl⟩ := exists_digitChar_of_mem (by decide) member
  rw [isGroupDigit, digitValue?_digitChar small (Nat.le_refl 16)]
  rfl

theorem isGroupDigit_of_decimal {number : Nat} {c : Char} (member : c ∈ Nat.toDigits 10 number) :
    isGroupDigit c := by
  obtain ⟨digit, small, rfl⟩ := exists_digitChar_of_mem (by decide) member
  rw [isGroupDigit, digitValue?_digitChar (Nat.lt_trans small (by decide)) (Nat.le_refl 16)]
  rfl

/-- The places that are taken once some more groups are read. -/
theorem taken_append (reading : Ipv6Reading) (groups : List Nat) :
    Ipv6Reading.taken { reading with tail := reading.tail ++ groups } =
      reading.taken + groups.length := by
  simp [Ipv6Reading.taken, Nat.add_assoc]

theorem length_group (small : group < 65536) : (Nat.toDigits 16 group).length ≤ 4 :=
  (@Nat.length_toDigits_le_iff 16 group 4 (by decide) (by decide)).mpr small

/-- A group is read, and nothing comes after it, -/
theorem readGroups_last (small : group < 65536) (room : reading.taken < 8) :
    readGroups reading (Nat.toDigits 16 group) =
      some { reading with tail := reading.tail ++ [group] } := by
  have read := @readGroups_digits reading _ [] Nat.toDigits_ne_nil
    (fun _ => isGroupDigit_of_mem) (length_group small) room nofun
  rwa [List.append_nil, number?_toDigits (by decide) (by decide)] at read

/-- or a colon and more. -/
theorem readGroups_colon {rest : List Char} (small : group < 65536) (room : reading.taken < 8)
    (more : rest ≠ []) :
    readGroups reading (Nat.toDigits 16 group ++ ':' :: rest) =
      readGroups { reading with tail := reading.tail ++ [group] } rest := by
  have stops : ∀ c, (':' :: rest).head? = some c → isGroupDigit c = false := by
    intro c same
    rw [← Option.some.inj same]
    decide
  rw [readGroups_digits Nat.toDigits_ne_nil (fun _ => isGroupDigit_of_mem) (length_group small) room stops,
    number?_toDigits (by decide) (by decide), afterDigits, List.isEmpty_eq_false_iff.mpr more]
  rfl

/-! ## Texts of groups -/

theorem groupsText_singleton (group : Nat) : groupsText [group] = Nat.toDigits 16 group := by
  simp [groupsText, List.intercalate]

theorem groupsText_cons (group next : Nat) (groups : List Nat) :
    groupsText (group :: next :: groups) =
      Nat.toDigits 16 group ++ ':' :: groupsText (next :: groups) := by
  simp [groupsText, List.intercalate]

theorem groupsText_ne_nil (group : Nat) (groups : List Nat) : groupsText (group :: groups) ≠ [] := by
  cases groups with
  | nil =>
    rw [groupsText_singleton]
    exact Nat.toDigits_ne_nil
  | cons next groups =>
    rw [groupsText_cons]
    exact List.append_ne_nil_of_right_ne_nil _ (List.cons_ne_nil _ _)

/-- Groups are read as they were written. -/
theorem readGroups_groupsText (some : groups ≠ []) (small : ∀ group ∈ groups, group < 65536)
    (room : reading.taken + groups.length ≤ 8) :
    readGroups reading (groupsText groups) =
      .some { reading with tail := reading.tail ++ groups } := by
  induction groups generalizing reading with
  | nil => exact absurd rfl some
  | cons group groups ih =>
    obtain ⟨first, others⟩ := List.forall_mem_cons.mp small
    rw [List.length_cons] at room
    cases groups with
    | nil =>
      rw [groupsText_singleton]
      exact readGroups_last first (by omega)
    | cons next groups =>
      rw [groupsText_cons, readGroups_colon first (by omega) (groupsText_ne_nil next groups),
        ih (List.cons_ne_nil _ _) others (by rw [taken_append, List.length_singleton]; omega)]
      rw [List.append_assoc, List.singleton_append]

theorem readGroups_nil (reading : Ipv6Reading) : readGroups reading [] = some reading := by
  rw [readGroups.eq_def]
  rfl

/-- A second colon after another one stands for zeros. -/
theorem readGroups_gap {tail : List Nat} (room : tail.length < 8) (rest : List Char) :
    readGroups ⟨none, tail⟩ (':' :: rest) = readGroups ⟨some tail, []⟩ rest := by
  have free : Ipv6Reading.taken ⟨none, tail⟩ ≠ 8 := by
    show 0 + tail.length ≠ 8
    omega
  rw [readGroups.eq_def]
  simp only [List.isEmpty_cons, Bool.false_eq_true, if_false, if_neg free, List.head?_cons, if_true]

theorem readGroups_before {tail : List Nat} (some : groups ≠ [])
    (small : ∀ group ∈ groups, group < 65536) (room : tail.length + groups.length < 8)
    (rest : List Char) :
    readGroups ⟨none, tail⟩ (groupsText groups ++ ':' :: ':' :: rest) =
      readGroups ⟨.some (tail ++ groups), []⟩ rest := by
  have taken : Ipv6Reading.taken ⟨none, tail⟩ = tail.length := Nat.zero_add _
  induction groups generalizing tail with
  | nil => exact absurd rfl some
  | cons group groups ih =>
    obtain ⟨first, others⟩ := List.forall_mem_cons.mp small
    rw [List.length_cons] at room
    cases groups with
    | nil =>
      rw [groupsText_singleton, readGroups_colon first (by omega) (List.cons_ne_nil _ _)]
      exact readGroups_gap (by rw [List.length_append, List.length_singleton]; omega) rest
    | cons next groups =>
      rw [groupsText_cons, List.append_assoc, List.cons_append,
        readGroups_colon first (by omega) (by simp)]
      have further : readGroups ⟨none, tail ++ [group]⟩ (groupsText (next :: groups) ++ _) = _ :=
        ih (List.cons_ne_nil _ _) others
          (by rw [List.length_append, List.length_singleton]; omega) (Nat.zero_add _)
      rwa [List.append_assoc] at further

/-! ## Whole addresses -/

/-- The groups of an address once all of its text is read. -/
def Ipv6Reading.groups? (reading : Ipv6Reading) : Option (List Nat) :=
  match reading.head with
  | none => if reading.tail.length = 8 then some reading.tail else none
  | some head =>
    some (head ++ List.replicate (8 - (head.length + reading.tail.length)) 0 ++ reading.tail)

theorem ipv6Groups?_of_gap (rest : List Char) :
    ipv6Groups? (':' :: ':' :: rest) =
      (readGroups ⟨some [], []⟩ rest).bind Ipv6Reading.groups? := rfl

/-- A text that starts with no colon is read group by group. -/
theorem ipv6Groups?_of_digit {text : List Char} {c : Char} (first : text.head? = some c)
    (digit : isGroupDigit c) :
    ipv6Groups? text = (readGroups ⟨none, []⟩ text).bind Ipv6Reading.groups? := by
  have different : c ≠ ':' := by
    rintro rfl
    exact absurd digit (by decide)
  unfold ipv6Groups?
  split
  · exact absurd (Option.some.inj first).symm different
  · exact absurd (Option.some.inj first).symm different
  · rfl

theorem head?_groupsText (group : Nat) (groups : List Nat) (rest : List Char) :
    ∃ c, (groupsText (group :: groups) ++ rest).head? = some c ∧ isGroupDigit c := by
  obtain ⟨digit, digits, shape⟩ := List.exists_cons_of_ne_nil (@Nat.toDigits_ne_nil group 16)
  refine ⟨digit, ?_, isGroupDigit_of_mem (shape ▸ List.mem_cons_self)⟩
  cases groups with
  | nil =>
    rw [groupsText_singleton, shape]
    rfl
  | cons next groups =>
    rw [groupsText_cons, shape]
    rfl

/-- Eight groups are read as they were written. -/
theorem ipv6Groups?_groupsText (eight : groups.length = 8)
    (small : ∀ group ∈ groups, group < 65536) : ipv6Groups? (groupsText groups) = some groups := by
  obtain ⟨group, others, rfl⟩ := List.exists_cons_of_length_eq_add_one eight
  obtain ⟨c, first, digit⟩ := head?_groupsText group others []
  rw [List.append_nil] at first
  have room : Ipv6Reading.taken ⟨none, []⟩ + (group :: others).length ≤ 8 := by
    rw [eight]
    exact Nat.le_refl 8
  rw [ipv6Groups?_of_digit first digit, readGroups_groupsText (List.cons_ne_nil _ _) small room]
  exact if_pos eight

/-- Groups with a run of zeros left out are read with the zeros. -/
theorem ipv6Groups?_gap {before after : List Nat} {zeros : Nat}
    (eight : before.length + zeros + after.length = 8) (some : 0 < zeros)
    (smallBefore : ∀ group ∈ before, group < 65536) (smallAfter : ∀ group ∈ after, group < 65536) :
    ipv6Groups? (groupsText before ++ ':' :: ':' :: groupsText after) =
      .some (before ++ List.replicate zeros 0 ++ after) := by
  have missing : 8 - (before.length + after.length) = zeros := by omega
  have rest : readGroups ⟨.some before, []⟩ (groupsText after) = .some ⟨.some before, after⟩ := by
    cases after with
    | nil => exact readGroups_nil _
    | cons group groups =>
      refine readGroups_groupsText (List.cons_ne_nil _ _) smallAfter ?_
      show before.length + 1 + 0 + (group :: groups).length ≤ 8
      omega
  rw [← missing]
  cases before with
  | nil =>
    refine (ipv6Groups?_of_gap (groupsText after)).trans ?_
    rw [rest]
    rfl
  | cons group groups =>
    obtain ⟨c, first, digit⟩ := head?_groupsText group groups (':' :: ':' :: groupsText after)
    have room : ([] : List Nat).length + (group :: groups).length < 8 := by
      rw [List.length_nil]
      omega
    rw [ipv6Groups?_of_digit first digit,
      readGroups_before (List.cons_ne_nil _ _) smallBefore room, List.nil_append, rest]
    rfl

/-! ## Runs of zeros -/

/-- Whether there are zeros in a list where a run says so. -/
def IsRun (groups : List Nat) (run : ZeroRun) : Prop :=
  ∃ before after, groups = before ++ List.replicate run.length 0 ++ after ∧
    before.length = run.start

/-- The longest run is one of the list, given that the best one so far is, and that the current one
ends where the list goes on. -/
theorem isRun_longestZeroRun {best current : ZeroRun} {seen rest : List Nat}
    (found : IsRun (seen ++ rest) best)
    (ends : ∃ before, seen = before ++ List.replicate current.length 0 ∧
      before.length = current.start) :
    IsRun (seen ++ rest) (longestZeroRun best current rest) := by
  induction rest generalizing best current seen with
  | nil => exact found
  | cons group rest ih =>
    obtain ⟨before, rfl, start⟩ := ends
    have shift : before ++ List.replicate current.length 0 ++ group :: rest =
        (before ++ List.replicate current.length 0 ++ [group]) ++ rest := by
      rw [List.append_assoc _ [group], List.singleton_append]
    rw [longestZeroRun]
    split
    · rename_i zero
      subst zero
      have longer : before ++ List.replicate current.length 0 ++ [0] =
          before ++ List.replicate (current.length + 1) 0 := by
        rw [List.append_assoc, List.replicate_succ']
      have now : IsRun (before ++ List.replicate current.length 0 ++ 0 :: rest)
          { current with length := current.length + 1 } :=
        ⟨before, rest, by rw [shift, longer], start⟩
      rw [shift] at found now ⊢
      refine ih ?_ ⟨before, longer, start⟩
      split
      · exact now
      · exact found
    · rw [shift] at found ⊢
      refine ih found ⟨_, (List.append_nil _).symm, ?_⟩
      simp only [List.length_append, List.length_replicate, List.length_singleton, start]

/-- The longest run of zeros is one. -/
theorem isRun_longest (groups : List Nat) :
    IsRun groups (longestZeroRun ⟨0, 0⟩ ⟨0, 0⟩ groups) :=
  @isRun_longestZeroRun ⟨0, 0⟩ ⟨0, 0⟩ [] groups ⟨[], groups, rfl, rfl⟩ ⟨[], rfl, rfl⟩

/-! ## Dotted tails -/

theorem splitDots_of_dotless {part : List Char} (dotless : '.' ∉ part) : splitDots part = [part] := by
  induction part with
  | nil => rfl
  | cons c part ih =>
    obtain ⟨differs, others⟩ := not_or.mp (mt List.mem_cons.mpr dotless)
    rw [splitDots, List.foldr_cons, ← splitDots, ih others]
    exact if_neg (by simpa using Ne.symm differs)

theorem splitDots_dot {part : List Char} (dotless : '.' ∉ part) (rest : List Char) :
    splitDots (part ++ '.' :: rest) = part :: splitDots rest := by
  have parts : ∃ first others, splitDots rest = first :: others := by
    cases rest with
    | nil => exact ⟨[], [], rfl⟩
    | cons c rest =>
      rw [splitDots, List.foldr_cons]
      split
      · split <;> exact ⟨_, _, rfl⟩
      · exact ⟨_, _, rfl⟩
  obtain ⟨first, others, split⟩ := parts
  induction part with
  | nil =>
    rw [List.nil_append, splitDots, List.foldr_cons, ← splitDots, split]
    rfl
  | cons c part ih =>
    obtain ⟨differs, dotless⟩ := not_or.mp (mt List.mem_cons.mpr dotless)
    rw [List.cons_append, splitDots, List.foldr_cons, ← splitDots, ih dotless]
    exact if_neg (by simpa using Ne.symm differs)

theorem dotless_toDigits (number : Nat) : '.' ∉ Nat.toDigits 10 number := fun member =>
  absurd (Nat.isDigit_of_mem_toDigits (by decide) (by decide) member) (by decide)

theorem dottedByte?_toDigits {byte : Nat} (small : byte < 256) :
    dottedByte? (Nat.toDigits 10 byte) = some byte := by
  have all : ∀ byte < 256, dottedByte? (Nat.toDigits 10 byte) = some byte := by decide +kernel
  exact all byte small

/-- Four bytes between full stops make up two groups. -/
theorem dottedGroups?_bytes {a b c d : Nat} (ha : a < 256) (hb : b < 256) (hc : c < 256)
    (hd : d < 256) :
    dottedGroups? (Nat.toDigits 10 a ++ '.' :: (Nat.toDigits 10 b ++ '.' ::
      (Nat.toDigits 10 c ++ '.' :: Nat.toDigits 10 d))) = some [a * 256 + b, c * 256 + d] := by
  have parts : splitDots (Nat.toDigits 10 a ++ '.' :: (Nat.toDigits 10 b ++ '.' ::
      (Nat.toDigits 10 c ++ '.' :: Nat.toDigits 10 d))) =
      [Nat.toDigits 10 a, Nat.toDigits 10 b, Nat.toDigits 10 c, Nat.toDigits 10 d] := by
    rw [splitDots_dot (dotless_toDigits a), splitDots_dot (dotless_toDigits b),
      splitDots_dot (dotless_toDigits c), splitDots_of_dotless (dotless_toDigits d)]
  rw [dottedGroups?, parts]
  simp only [List.mapM_cons, List.mapM_nil, dottedByte?_toDigits ha, dottedByte?_toDigits hb,
    dottedByte?_toDigits hc, dottedByte?_toDigits hd, Option.pure_def, Option.bind_eq_bind,
    Option.bind_some]

theorem ipv4Text_eq (address : Nat) :
    ipv4Text address = Nat.toDigits 10 (address / 256 ^ (3 : Nat) % 256) ++ '.' ::
      (Nat.toDigits 10 (address / 256 ^ (2 : Nat) % 256) ++ '.' ::
        (Nat.toDigits 10 (address / 256 ^ (1 : Nat) % 256) ++ '.' ::
          Nat.toDigits 10 (address / 256 ^ (0 : Nat) % 256))) := by
  simp only [ipv4Text, List.append_assoc, List.cons_append]

theorem upper_of_bytes {high low : Nat} (smallHigh : high < 65536) (smallLow : low < 65536) :
    (high * 65536 + low) / 256 ^ (3 : Nat) % 256 * 256 +
      (high * 65536 + low) / 256 ^ (2 : Nat) % 256 = high := by
  have third : 256 ^ (3 : Nat) = 16777216 := rfl
  have second : 256 ^ (2 : Nat) = 65536 := rfl
  rw [third, second]
  omega

theorem lower_of_bytes (high : Nat) {low : Nat} (smallLow : low < 65536) :
    (high * 65536 + low) / 256 ^ (1 : Nat) % 256 * 256 +
      (high * 65536 + low) / 256 ^ (0 : Nat) % 256 = low := by
  have first : 256 ^ (1 : Nat) = 256 := rfl
  have unit : 256 ^ (0 : Nat) = 1 := rfl
  rw [first, unit, Nat.div_one]
  omega

/-- The two groups of an address with a dotted tail are those of the address. -/
theorem dottedGroups?_ipv4Text {high low : Nat} (smallHigh : high < 65536) (smallLow : low < 65536) :
    dottedGroups? (ipv4Text (high * 65536 + low)) = some [high, low] := by
  have byte (value : Nat) : value % 256 < 256 := Nat.mod_lt value (by decide)
  rw [ipv4Text_eq, dottedGroups?_bytes (byte _) (byte _) (byte _) (byte _),
    upper_of_bytes smallHigh smallLow, lower_of_bytes high smallLow]

/-! ## Addresses that are written -/

theorem ipv6Text_mapped (high low : Nat) :
    ipv6Text [0, 0, 0, 0, 0, 0xFFFF, high, low] =
      ':' :: ':' :: (Nat.toDigits 16 0xFFFF ++ ':' :: ipv4Text (high * 65536 + low)) := by
  have digits : Nat.toDigits 16 0xFFFF = ['f', 'f', 'f', 'f'] := by decide +kernel
  show "::ffff:".toList ++ ipv4Text (high * 65536 + low) = _
  rw [digits]
  rfl

/-- The bytes of a mapped address are read as its last two groups. -/
theorem readGroups_ipv4Text {high low : Nat} (room : reading.taken ≤ 6) (smallHigh : high < 65536)
    (smallLow : low < 65536) :
    readGroups reading (ipv4Text (high * 65536 + low)) =
      some { reading with tail := reading.tail ++ [high, low] } := by
  have groups := dottedGroups?_ipv4Text smallHigh smallLow
  have few (number : Nat) : (Nat.toDigits 10 (number % 256)).length ≤ 4 :=
    (@Nat.length_toDigits_le_iff 10 (number % 256) 4 (by decide) (by decide)).mpr
      (Nat.lt_trans (Nat.mod_lt number (by decide)) (by decide))
  have stops (rest : List Char) (c : Char) (same : ('.' :: rest).head? = some c) :
      isGroupDigit c = false := by
    rw [← Option.some.inj same]
    decide
  rw [ipv4Text_eq] at groups ⊢
  rw [readGroups_digits Nat.toDigits_ne_nil (fun _ => isGroupDigit_of_decimal) (few _) (Nat.lt_of_le_of_lt room (by decide))
    (stops _), afterDigits, if_neg (Nat.not_lt.mpr room), groups]
  rfl

/-- An address is read as it was written. -/
theorem ipv6Groups?_ipv6Text (eight : groups.length = 8)
    (small : ∀ group ∈ groups, group < 65536) : ipv6Groups? (ipv6Text groups) = some groups := by
  by_cases mapped : ∃ high low, groups = [0, 0, 0, 0, 0, 0xFFFF, high, low]
  · obtain ⟨high, low, rfl⟩ := mapped
    have smallHigh : high < 65536 := small high (by simp)
    have smallLow : low < 65536 := small low (by simp)
    have more : ipv4Text (high * 65536 + low) ≠ [] := by
      rw [ipv4Text_eq]
      exact List.append_ne_nil_of_right_ne_nil _ (List.cons_ne_nil _ _)
    rw [ipv6Text_mapped, ipv6Groups?_of_gap, readGroups_colon (by decide) (by decide) more,
      readGroups_ipv4Text (by decide) smallHigh smallLow]
    rfl
  · have written : ipv6Text groups =
        if (longestZeroRun ⟨0, 0⟩ ⟨0, 0⟩ groups).length > 1 then
          groupsText (groups.take (longestZeroRun ⟨0, 0⟩ ⟨0, 0⟩ groups).start) ++ "::".toList ++
            groupsText (groups.drop ((longestZeroRun ⟨0, 0⟩ ⟨0, 0⟩ groups).start +
              (longestZeroRun ⟨0, 0⟩ ⟨0, 0⟩ groups).length))
        else groupsText groups := by
      rw [ipv6Text.eq_def]
      split
      · exact absurd ⟨_, _, rfl⟩ mapped
      · rfl
    rw [written]
    obtain ⟨before, after, split, start⟩ := isRun_longest groups
    generalize longestZeroRun ⟨0, 0⟩ ⟨0, 0⟩ groups = run at split start
    by_cases long : run.length > 1
    · rw [if_pos long]
      subst split
      have parts : before.length + run.length + after.length = 8 := by
        rw [← eight]
        simp only [List.length_append, List.length_replicate]
      have first : (before ++ List.replicate run.length 0 ++ after).take run.start = before := by
        rw [← start, List.append_assoc, List.take_left]
      have last : (before ++ List.replicate run.length 0 ++ after).drop (run.start + run.length) =
          after := by
        have size : run.start + run.length = (before ++ List.replicate run.length 0).length := by
          rw [List.length_append, List.length_replicate, start]
        rw [size, List.drop_left]
      rw [first, last, List.append_assoc]
      refine ipv6Groups?_gap parts (Nat.lt_trans Nat.one_pos long) ?_ ?_
      · exact fun group member =>
          small group (List.mem_append_left _ (List.mem_append_left _ member))
      · exact fun group member => small group (List.mem_append_right _ member)
    · rw [if_neg long]
      exact ipv6Groups?_groupsText eight small

theorem mem_groupsText {c : Char} (member : c ∈ groupsText groups) : isGroupDigit c ∨ c = ':' := by
  induction groups with
  | nil => cases member
  | cons group groups ih =>
    cases groups with
    | nil =>
      rw [groupsText_singleton] at member
      exact .inl (isGroupDigit_of_mem member)
    | cons next groups =>
      rw [groupsText_cons, List.mem_append, List.mem_cons] at member
      rcases member with digit | colon | others
      · exact .inl (isGroupDigit_of_mem digit)
      · exact .inr colon
      · exact ih others

theorem mem_ipv4Text {address : Nat} {c : Char} (member : c ∈ ipv4Text address) :
    isGroupDigit c ∨ c = '.' := by
  rw [ipv4Text_eq] at member
  simp only [List.mem_append, List.mem_cons] at member
  rcases member with digit | dot | digit | dot | digit | dot | digit
  all_goals first
    | exact .inl (isGroupDigit_of_decimal digit)
    | exact .inr dot

/-- What an address is written with. -/
theorem mem_ipv6Text {c : Char} (member : c ∈ ipv6Text groups) :
    isGroupDigit c ∨ c = ':' ∨ c = '.' := by
  rw [ipv6Text.eq_def] at member
  split at member
  · rename_i high low
    have shape : "::ffff:".toList = [':', ':', 'f', 'f', 'f', 'f', ':'] := rfl
    rw [shape, List.mem_append] at member
    rcases member with mark | byte
    · have digit : isGroupDigit 'f' := by decide
      simp only [List.mem_cons, List.not_mem_nil, or_false] at mark
      rcases mark with rfl | rfl | rfl | rfl | rfl | rfl | rfl
      all_goals first
        | exact .inl digit
        | exact .inr (.inl rfl)
    · exact (mem_ipv4Text byte).imp_right .inr
  · have gap : "::".toList = [':', ':'] := rfl
    rw [gap] at member
    dsimp only at member
    split at member
    · simp only [List.mem_append, List.mem_cons, List.not_mem_nil, or_false, or_self] at member
      rcases member with (group | colon) | group
      · exact (mem_groupsText group).imp_right .inl
      · exact .inr (.inl colon)
      · exact (mem_groupsText group).imp_right .inl
    · exact (mem_groupsText member).imp_right .inl

end Seedbed.Url

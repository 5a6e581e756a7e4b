import Mathlib.Data.Option.Basic
import Mathlib.Logic.Function.Basic
import Seedbed.Proofs.CommandLine.Spelling

/-!
# Values of options

Exactly the command lines are accepted that give no option twice, and give each a value that it can
have; then the arguments are what these values say, else what the values of variables say, else the
defaults (`read_eq_ok_iff`). While options are taken, it is known of each which value it has by then
(`Reads`).
-/

namespace Seedbed.CommandLine

/-! ## Values -/

/-- Whether a text is a number of one word in decimal digits, perhaps with a plus before them. -/
def Counts (value : SystemText) (number : Nat) : Prop :=
  ∃ text : String, value = text ∧ ∃ digits, (text.toList = digits ∨ text.toList = '+' :: digits) ∧
    Text.number? 10 digits = some number ∧ number < countLimit

/-- One more digit of a number. -/
def digitAfter (number : Nat) (c : Char) : Option Nat :=
  (Text.digitValue? 10 c).map (number * 10 + ·)

theorem le_of_foldlM_digitAfter {digits : List Char} {number count : Nat}
    (read : digits.foldlM digitAfter number = some count) : number ≤ count := by
  induction digits generalizing number with
  | nil =>
    cases read
    exact Nat.le_refl _
  | cons c digits ih =>
    obtain ⟨middle, first, rest⟩ := Option.bind_eq_some_iff.mp read
    obtain ⟨digit, -, rfl⟩ := Option.map_eq_some_iff.mp first
    have := ih rest
    omega

/-- Digits after a number are read as long as no more than one word is needed. -/
theorem countAfter_eq_ok_iff {digits : List Char} {number count : Nat}
    (fits : number < countLimit) :
    countAfter number digits = .ok count ↔
      digits.foldlM digitAfter number = some count ∧ count < countLimit := by
  induction digits generalizing number with
  | nil =>
    show Except.ok number = .ok count ↔ some number = some count ∧ count < countLimit
    constructor
    · intro same
      cases same
      exact ⟨rfl, fits⟩
    · rintro ⟨same, -⟩
      cases same
      rfl
  | cons c digits ih =>
    rw [countAfter, List.foldlM_cons, digitAfter]
    cases Text.digitValue? 10 c with
    | none => simp
    | some digit =>
      show (if number * 10 + digit < countLimit then countAfter (number * 10 + digit) digits
        else .error .tooLarge) = .ok count ↔
          digits.foldlM digitAfter (number * 10 + digit) = some count ∧ count < countLimit
      by_cases small : number * 10 + digit < countLimit
      · rw [if_pos small]
        exact ih small
      · rw [if_neg small]
        refine ⟨nofun, fun ⟨read, few⟩ => absurd (le_of_foldlM_digitAfter read) ?_⟩
        omega

theorem number?_cons (c : Char) (rest : List Char) :
    Text.number? 10 (c :: rest) = (c :: rest).foldlM digitAfter 0 := rfl

theorem number?_sign (rest : List Char) : Text.number? 10 ('+' :: rest) = none := by
  have sign : Text.digitValue? 10 '+' = none := by decide
  rw [number?_cons, List.foldlM_cons, digitAfter, sign]
  rfl

theorem countAfter_zero_eq_ok_iff {c : Char} {rest : List Char} {count : Nat} :
    countAfter 0 (c :: rest) = .ok count ↔
      Text.number? 10 (c :: rest) = some count ∧ count < countLimit := by
  rw [number?_cons]
  exact countAfter_eq_ok_iff (by decide)

theorem readCount_eq_ok_iff {text : String} {count : Nat} :
    readCount text = .ok count ↔ ∃ digits, (text.toList = digits ∨ text.toList = '+' :: digits) ∧
      Text.number? 10 digits = some count ∧ count < countLimit := by
  unfold readCount
  generalize text.toList = letters
  split
  · simp [Text.number?]
  · simp [countAfter_zero_eq_ok_iff, number?_sign]
  · rename_i empty signed
    cases letters with
    | nil => exact (empty rfl).elim
    | cons c rest =>
      rw [countAfter_zero_eq_ok_iff]
      constructor
      · rintro ⟨read, few⟩
        exact ⟨c :: rest, .inl rfl, read, few⟩
      · rintro ⟨digits, rfl | sign, read, few⟩
        · exact ⟨read, few⟩
        · obtain ⟨rfl, rfl⟩ := List.cons.inj sign
          cases rest with
          | nil => cases read
          | cons other rest => exact (signed other rest rfl).elim

theorem counts_iff {value : SystemText} {count : Nat} :
    Counts value count ↔ ∃ text, value.text? = some text ∧ readCount text = .ok count := by
  simp only [SystemText.text?_eq_some_iff, readCount_eq_ok_iff]
  exact Iff.rfl

/-- Whether arguments are right as to an option with a value, or without one. -/
def Opt.Shows (option : Opt) (value? : Option SystemText) (arguments : Arguments) : Prop :=
  match option with
  | .environment => (arguments.environment.name : SystemText) = value?.getD "local"
  | .directory => arguments.directory = value?.getD "." ∧ value? ≠ some ""
  | .users => Option.Rel Counts value? arguments.users?

theorem counts_unique {value : SystemText} {first second : Nat} (one : Counts value first)
    (other : Counts value second) : first = second := by
  obtain ⟨text, read, one⟩ := counts_iff.mp one
  obtain ⟨text', read', other⟩ := counts_iff.mp other
  rw [read] at read'
  cases read'
  exact Except.ok.inj (one.symm.trans other)

/-- The values of all options decide about the arguments. -/
theorem eq_of_shows {values : Opt → Option SystemText} {first second : Arguments}
    (one : ∀ option : Opt, option.Shows (values option) first)
    (other : ∀ option : Opt, option.Shows (values option) second) : first = second := by
  obtain ⟨environment, directory, users?⟩ := first
  obtain ⟨environment', directory', users?'⟩ := second
  have names : environment.name = environment'.name :=
    SystemText.ofText_injective ((one .environment).trans (other .environment).symm)
  have environments : environment = environment' := by
    cases environment <;> cases environment' <;> first | rfl | exact absurd names (by decide)
  have directories : directory = directory' := (one .directory).1.trans (other .directory).1.symm
  have users : users? = users?' := by
    have one : Option.Rel Counts (values .users) users? := one .users
    have other : Option.Rel Counts (values .users) users?' := other .users
    generalize values .users = value? at one other
    cases one with
    | none =>
      cases other
      rfl
    | some count =>
      cases other with
      | some count' => exact congrArg some (counts_unique count count')
  rw [environments, directories, users]

/-- Whether an option can have a value. -/
def Opt.Allows (option : Opt) (value : SystemText) : Prop :=
  ∃ arguments, option.Shows (some value) arguments

theorem named_iff {value : SystemText} {environment : Environment} :
    value.text?.bind Environment.ofName? = some environment ↔ environment.name = value := by
  constructor
  · intro known
    obtain ⟨text, read, found⟩ := Option.bind_eq_some_iff.mp known
    have same : environment.name = text := by simpa using List.find?_some found
    rw [same]
    exact (SystemText.text?_eq_some_iff.mp read).symm
  · rintro rfl
    rw [SystemText.text?_ofText]
    exact environment.ofName?_name

theorem eq_empty_of_isEmpty {value : SystemText} (empty : value.octets.isEmpty) : value = "" :=
  congrArg SystemText.mk (List.isEmpty_iff.mp empty)

/-- Arguments that are set are right as to the option, and as right as before as to all others. -/
theorem shows_of_set {arguments after : Arguments} {option : Opt} {value : SystemText}
    (set : arguments.set option value = .ok after) :
    option.Shows (some value) after ∧
      ∀ other ≠ option, ∀ {value?}, other.Shows value? arguments → other.Shows value? after := by
  cases option with
  | environment =>
    simp only [Arguments.set] at set
    split at set
    · cases set
    · split at set
      · rename_i environment known
        cases set
        exact ⟨named_iff.mp known, fun other different _ shows => by
          cases other <;> first | exact absurd rfl different | exact shows⟩
      · cases set
  | directory =>
    simp only [Arguments.set] at set
    split at set
    · cases set
    · rename_i some
      cases set
      refine ⟨⟨rfl, fun empty => some ?_⟩, fun other different _ shows => by
        cases other <;> first | exact absurd rfl different | exact shows⟩
      rw [Option.some.inj empty]
      rfl
  | users =>
    simp only [Arguments.set] at set
    split at set
    · cases set
    · rename_i text isText
      split at set
      · rename_i count read
        cases set
        exact ⟨.some (counts_iff.mpr ⟨text, isText, read⟩), fun other different _ shows => by
          cases other <;> first | exact absurd rfl different | exact shows⟩
      · cases set

theorem exists_set {option : Opt} {value : SystemText} (allowed : option.Allows value)
    (arguments : Arguments) : ∃ after, arguments.set option value = .ok after := by
  obtain ⟨right, shows⟩ := allowed
  cases option with
  | environment =>
    have named : right.environment.name = value := shows
    have some : value.octets.isEmpty = false := by
      rw [← named]
      cases right.environment <;> decide
    have known := named_iff.mpr named
    exact ⟨{ arguments with environment := right.environment }, by simp [Arguments.set, some, known]⟩
  | directory =>
    have some : ¬ value.octets.isEmpty := fun empty =>
      shows.2 (congrArg some (eq_empty_of_isEmpty empty))
    exact ⟨{ arguments with directory := value }, if_neg some⟩
  | users =>
    have counts : Option.Rel Counts (some value) right.users? := shows
    generalize right.users? = users? at counts
    cases counts with
    | some counts =>
      rename_i count
      obtain ⟨text, isText, read⟩ := counts_iff.mp counts
      exact ⟨{ arguments with users? := some count }, by simp only [Arguments.set, isText, read]⟩

/-! ## Taking options -/

/-- Whether what was read are options with some values. -/
structure Reads (reading : Reading) (values : Opt → Option SystemText) : Prop where
  given : ∀ option, option ∈ reading.given ↔ (values option).isSome
  shows : ∀ option : Opt, option.Shows (values option) reading.arguments

theorem take_eq_ok_iff {reading after : Reading} {option : Opt} {value : SystemText} :
    Reading.orStop (reading.take option (some value)) = .ok after ↔
      option ∉ reading.given ∧ reading.arguments.set option value = .ok after.arguments ∧
        after.given = reading.given ++ [option] := by
  rw [orStop_eq_ok_iff, Reading.take]
  by_cases repeated : option ∈ reading.given
  · simp [repeated]
  · rw [if_neg repeated]
    cases set : reading.arguments.set option value with
    | error refusal => simp
    | ok arguments =>
      obtain ⟨arguments', given⟩ := after
      simp [repeated, eq_comm]

namespace Reads

open Function

variable {reading after : Reading} {values : Opt → Option SystemText} {option : Opt}
  {value : SystemText}

theorem congr {values' : Opt → Option SystemText} (reads : Reads reading values)
    (same : ∀ option, values' option = values option) : Reads reading values' :=
  (funext same : values' = values) ▸ reads

/-- An option is taken if it was not given before and can have the value. -/
theorem take (reads : Reads reading values)
    (taken : Reading.orStop (reading.take option (some value)) = .ok after) :
    values option = none ∧ option.Allows value ∧
      Reads after (update values option (some value)) := by
  obtain ⟨fresh, set, given⟩ := take_eq_ok_iff.mp taken
  obtain ⟨own, others⟩ := shows_of_set set
  rw [reads.given, Option.not_isSome_iff_eq_none] at fresh
  refine ⟨fresh, ⟨_, own⟩, fun other => ?_, fun other => ?_⟩
  · rw [given, List.mem_append, List.mem_singleton, reads.given]
    by_cases same : other = option
    · simp [same]
    · simp [same]
  · by_cases same : other = option
    · rw [same, update_self]
      exact own
    · rw [update_of_ne same]
      exact others other same (reads.shows other)

theorem exists_take (reads : Reads reading values) (fresh : values option = none)
    (allowed : option.Allows value) :
    ∃ after, Reading.orStop (reading.take option (some value)) = .ok after := by
  obtain ⟨arguments, set⟩ := exists_set allowed reading.arguments
  refine ⟨⟨arguments, reading.given ++ [option]⟩, take_eq_ok_iff.mpr ⟨?_, set, rfl⟩⟩
  rw [reads.given, fresh]
  exact Bool.false_ne_true

/-- Options are all taken if none is given twice and each can have its value. -/
theorem takeAll {given : List (Opt × SystemText)} (reads : Reads reading values)
    (taken : reading.takeAll given = .ok after) :
    (given.map Prod.fst).Nodup ∧
      (∀ pair ∈ given, values pair.1 = none ∧ pair.1.Allows pair.2) ∧
        Reads after fun option => (values option).or (given.lookup option) := by
  induction given generalizing reading values with
  | nil =>
    cases taken
    exact ⟨.nil, nofun, by simpa using reads⟩
  | cons pair given ih =>
    obtain ⟨option, value⟩ := pair
    obtain ⟨middle, first, rest⟩ := takeAll_cons_iff.mp taken
    obtain ⟨fresh, allowed, onward⟩ := reads.take first
    obtain ⟨nodup, free, all⟩ := ih onward rest
    have apart : ∀ pair ∈ given, pair.1 ≠ option := fun pair inside same => by
      have unset := (free pair inside).1
      rw [same, update_self] at unset
      cases unset
    refine ⟨List.nodup_cons.mpr ⟨?_, nodup⟩, ?_, ?_⟩
    · exact fun inside => by
        obtain ⟨pair, inside, same⟩ := List.mem_map.mp inside
        exact apart pair inside same
    · refine List.forall_mem_cons.mpr ⟨⟨fresh, allowed⟩, fun pair inside => ?_⟩
      have own := free pair inside
      rwa [update_of_ne (apart pair inside)] at own
    · refine all.congr fun other => ?_
      by_cases same : other = option
      · rw [same, update_self, fresh, List.lookup_cons_self]
        rfl
      · rw [update_of_ne same, List.lookup_cons, beq_eq_false_iff_ne.mpr same]

theorem exists_takeAll {given : List (Opt × SystemText)} (reads : Reads reading values)
    (nodup : (given.map Prod.fst).Nodup)
    (free : ∀ pair ∈ given, values pair.1 = none ∧ pair.1.Allows pair.2) :
    ∃ after, reading.takeAll given = .ok after := by
  induction given generalizing reading values with
  | nil => exact ⟨reading, rfl⟩
  | cons pair given ih =>
    obtain ⟨option, value⟩ := pair
    obtain ⟨⟨fresh, allowed⟩, others⟩ := List.forall_mem_cons.mp free
    obtain ⟨middle, first⟩ := reads.exists_take fresh allowed
    obtain ⟨absent, nodup⟩ := List.nodup_cons.mp nodup
    obtain ⟨after, rest⟩ := ih (reads.take first).2.2 nodup fun pair inside => by
      have different : pair.1 ≠ option := fun same =>
        absent (List.mem_map.mpr ⟨pair, inside, same⟩)
      rw [update_of_ne different]
      exact others pair inside
    exact ⟨after, takeAll_cons_iff.mpr ⟨middle, first, rest⟩⟩

/-! ### Variables -/

variable {held : String → Option SystemText}

/-- Options take the values of their variables, unless they were given. -/
theorem fill (reads : Reads reading values) (filled : CommandLine.fill held reading option = .ok after) :
    Reads after
      (update values option ((values option).or (option.variableName?.bind held))) := by
  unfold CommandLine.fill at filled
  split at filled
  · rename_i inside
    cases filled
    obtain ⟨value, some⟩ := Option.isSome_iff_exists.mp ((reads.given option).mp inside)
    rw [some, Option.some_or, ← some, update_eq_self]
    exact reads
  · rename_i fresh
    rw [reads.given, Option.not_isSome_iff_eq_none] at fresh
    rw [fresh, Option.none_or]
    split at filled
    · rename_i unset
      cases filled
      rw [unset, ← fresh, update_eq_self]
      exact reads
    · rename_i value set
      rw [set]
      exact (reads.take filled).2.2

theorem exists_fill (reads : Reads reading values)
    (allowed : values option = none → ∀ value ∈ option.variableName?.bind held, option.Allows value) :
    ∃ after, CommandLine.fill held reading option = .ok after := by
  unfold CommandLine.fill
  split
  · exact ⟨reading, rfl⟩
  · rename_i fresh
    rw [reads.given, Option.not_isSome_iff_eq_none] at fresh
    split
    · exact ⟨reading, rfl⟩
    · rename_i value set
      exact reads.exists_take fresh (allowed fresh value set)

theorem fillAll (reads : Reads reading values)
    (filled : Opt.all.foldlM (CommandLine.fill held) reading = .ok after) :
    Reads after fun option => (values option).or (option.variableName?.bind held) := by
  obtain ⟨first, one, rest⟩ := bind_eq_ok_iff.mp filled
  obtain ⟨second, two, rest⟩ := bind_eq_ok_iff.mp rest
  obtain ⟨third, three, rest⟩ := bind_eq_ok_iff.mp rest
  cases rest
  refine (((reads.fill one).fill two).fill three).congr fun option => ?_
  cases option <;> rfl

theorem exists_fillAll (reads : Reads reading values)
    (allowed : ∀ option, values option = none →
      ∀ value ∈ option.variableName?.bind held, option.Allows value) :
    ∃ after, Opt.all.foldlM (CommandLine.fill held) reading = .ok after := by
  obtain ⟨first, one⟩ := reads.exists_fill (allowed .environment)
  obtain ⟨second, two⟩ := @exists_fill _ _ .directory _ (reads.fill one) (allowed .directory)
  obtain ⟨third, three⟩ := @exists_fill _ _ .users _ ((reads.fill one).fill two) (allowed .users)
  exact ⟨third, bind_eq_ok_iff.mpr ⟨_, one, bind_eq_ok_iff.mpr ⟨_, two,
    bind_eq_ok_iff.mpr ⟨_, three, rfl⟩⟩⟩⟩

end Reads

/-- The value of an option: the one that is given, else what its variable holds. -/
def valueOf (held : String → Option SystemText) (given : List (Opt × SystemText)) (option : Opt) :
    Option SystemText :=
  (given.lookup option).or (option.variableName?.bind held)

/-- An option that is given once has the value that it is given with. -/
theorem lookup_of_mem {given : List (Opt × SystemText)} (nodup : (given.map Prod.fst).Nodup)
    {option : Opt} {value : SystemText} (inside : (option, value) ∈ given) :
    given.lookup option = some value := by
  obtain ⟨before, later, rfl⟩ := List.append_of_mem inside
  refine List.lookup_eq_some_iff.mpr ⟨before, later, rfl, fun pair earlier => ?_⟩
  rw [List.map_append, List.map_cons] at nodup
  have different : pair.1 ≠ option := fun same =>
    (List.nodup_append.mp nodup).2.2 pair.1 (List.mem_map_of_mem earlier) option
      List.mem_cons_self same
  exact bne_iff_ne.mpr different.symm

theorem reads_blank : Reads {} fun _ => none where
  given option := by simp
  shows option := by
    cases option with
    | environment => rfl
    | directory => exact ⟨rfl, nofun⟩
    | users => exact Option.Rel.none

/-- Exactly the command lines are accepted that give options with values that they can have, each
option once at most; the arguments are what these values and those of the variables say. -/
theorem read_eq_ok_iff {held : String → Option SystemText} {texts : List SystemText}
    {arguments : Arguments} :
    Arguments.read held texts = .ok arguments ↔
      ∃ given, Spells texts given ∧ (given.map Prod.fst).Nodup ∧
        ∀ option : Opt, option.Shows (valueOf held given option) arguments := by
  constructor
  · intro read
    obtain ⟨reading, all, filled⟩ := bind_eq_ok_iff.mp read
    obtain ⟨given, spells, taken⟩ := (readAll_eq_ok_iff none).mp all
    obtain ⟨nodup, -, reads⟩ := reads_blank.takeAll taken
    obtain ⟨after, every, same⟩ := bind_eq_ok_iff.mp filled
    cases same
    exact ⟨given, spells, nodup, (reads.fillAll every).shows⟩
  · rintro ⟨given, spells, nodup, shows⟩
    have allows : ∀ option, ∀ value ∈ valueOf held given option, option.Allows value :=
      fun option value said => ⟨arguments, said ▸ shows option⟩
    obtain ⟨reading, taken⟩ := reads_blank.exists_takeAll nodup fun pair inside => by
      refine ⟨rfl, allows pair.1 pair.2 ?_⟩
      rw [valueOf, lookup_of_mem nodup inside]
      rfl
    -- What is read is right as to all options, as the arguments are, and that decides them.
    obtain ⟨-, -, reads⟩ := reads_blank.takeAll taken
    obtain ⟨after, filled⟩ := reads.exists_fillAll fun option absent value said => by
      refine allows option value ?_
      rw [Option.none_or] at absent
      rw [valueOf, absent]
      exact said
    have same : after.arguments = arguments := eq_of_shows (reads.fillAll filled).shows shows
    refine bind_eq_ok_iff.mpr ⟨reading, (readAll_eq_ok_iff none).mpr ⟨given, spells, taken⟩, ?_⟩
    exact bind_eq_ok_iff.mpr ⟨after, filled, congrArg Except.ok same⟩

/-- A value after its option, one after a sign of equality, and one that only a variable holds. -/
example :
    Arguments.read (fun name => if name = "SEED_CONFIG_DIR" then some "etc" else none)
        ["--users", "+07", "--env=dev", "--"] =
      .ok { environment := .dev, directory := "etc", users? := some 7 } :=
  rfl

end Seedbed.CommandLine

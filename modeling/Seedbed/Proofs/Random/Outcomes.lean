import Seedbed.Fake.Basic

/-!
# Outcomes of draws

What a draw can come to, whatever the words of its source (`Gives`): a value with some property, or
no value because the words are drawn again for too long, but never a panic. A number below a bound
is below that bound, a word of a list is one of its words, and what is made of such draws keeps to
what its parts keep to. User names are not empty, and mail addresses have their sign.
-/

namespace Seedbed

namespace Draw

variable {ρ : Type}

/-- Whatever the source, a draw gives a value with some property unless it stalls. It never
panics. -/
structure Gives (draw : Draw ρ α) (holds : α → Prop) : Prop where
  /-- Either there is a value, and it has the property, or the words were drawn again for too
  long. -/
  outcome : ∀ source, match draw.run source with
    | .ok (value, _) => holds value
    | .error halt => halt = .stalled

variable {draw : Draw ρ α} {holds : α → Prop}

theorem Gives.value (gives : draw.Gives holds) {source later : ρ} {value : α}
    (ran : draw.run source = .ok (value, later)) : holds value := by
  have outcome := gives.outcome source
  rwa [ran] at outcome

theorem Gives.stalled (gives : draw.Gives holds) {source : ρ} {halt : Halt}
    (ran : draw.run source = .error halt) : halt = .stalled := by
  have outcome := gives.outcome source
  rwa [ran] at outcome

theorem gives_pure {value : α} (has : holds value) : (pure value : Draw ρ α).Gives holds :=
  ⟨fun _ => has⟩

theorem gives_stalled : (throw .stalled : Draw ρ α).Gives holds := ⟨fun _ => rfl⟩

theorem Gives.bind {next : α → Draw ρ β} {last : β → Prop} (first : draw.Gives holds)
    (rest : ∀ value, holds value → (next value).Gives last) : (draw >>= next).Gives last := by
  refine ⟨fun source => ?_⟩
  rw [StateT.run_bind]
  cases ran : draw.run source with
  | error halt => exact first.stalled ran
  | ok drawn => exact (rest drawn.1 (first.value ran)).outcome drawn.2

/-! ## Numbers -/

/-- The number that a word stands for is below its bound. -/
theorem lt_of_reduce? {bits bound word value : Nat} (positive : 0 < bound)
    (small : word < 2 ^ bits) (reduced : reduce? bits bound word = some value) : value < bound := by
  unfold reduce? at reduced
  rw [if_neg (Nat.ne_of_gt positive)] at reduced
  split at reduced
  · cases reduced
    exact Nat.div_lt_of_lt_mul (Nat.mul_lt_mul_of_pos_right small positive)
  · cases reduced

/-- Whatever is accepted in the end was made of a word. -/
theorem gives_until? {word : Draw ρ Nat} {accept : Nat → Option Nat} {drawn accepted : Nat → Prop}
    (words : word.Gives drawn)
    (each : ∀ number value, drawn number → accept number = some value → accepted value)
    (tries : Nat) : (until? word accept tries).Gives accepted := by
  induction tries with
  | zero => exact gives_stalled
  | succ tries ih =>
    refine words.bind fun number has => ?_
    split
    · rename_i value same
      exact gives_pure (each number value has same)
    · exact ih

variable [RandomSource ρ]

theorem gives_word32 : (word32 : Draw ρ Nat).Gives (· < 2 ^ (32 : Nat)) :=
  ⟨fun source => (RandomSource.word32 source).1.toNat_lt⟩

theorem gives_word64 : (word64 : Draw ρ Nat).Gives (· < 2 ^ (64 : Nat)) :=
  ⟨fun source => (RandomSource.word64 source).1.toNat_lt⟩

theorem gives_below32 {bound : Nat} (positive : 0 < bound) :
    (below32 bound : Draw ρ Nat).Gives (· < bound) :=
  gives_until? gives_word32 (fun _ _ small same => lt_of_reduce? positive small same) patience

theorem gives_below64 {bound : Nat} (positive : 0 < bound) :
    (below64 bound : Draw ρ Nat).Gives (· < bound) :=
  gives_until? gives_word64 (fun _ _ small same => lt_of_reduce? positive small same) patience

theorem gives_octet : (octet : Draw ρ Nat).Gives (· < 256) :=
  gives_word32.bind fun _ _ => gives_pure (Nat.mod_lt _ (by decide))

theorem gives_range {start stop : Nat} (some : start < stop) :
    (range start stop : Draw ρ Nat).Gives fun number => start ≤ number ∧ number < stop := by
  refine (gives_below64 (Nat.sub_pos_of_lt some)).bind fun number small => gives_pure ?_
  exact ⟨Nat.le_add_right .., Nat.add_lt_of_lt_sub' small⟩

/-- A probability makes sense if it is neither negative nor more than certainty. -/
theorem gives_chance {rate : Decimal.Binary64} (sensible : rate.negative = false)
    (atMost : rate.floorShifted 64 ≤ 2 ^ (64 : Nat)) :
    (chance rate : Draw ρ Bool).Gives fun _ => True := by
  unfold chance
  rw [sensible, Bool.false_and, if_neg Bool.false_ne_true, if_neg (Nat.not_lt_of_le atMost)]
  split
  · exact gives_pure trivial
  · exact gives_word64.bind fun _ _ => gives_pure trivial

omit [RandomSource ρ] in
theorem gives_times (each : draw.Gives holds) (count : Nat) :
    (times draw count).Gives fun values =>
      values.length = count ∧ ∀ value ∈ values, holds value := by
  induction count with
  | zero => exact gives_pure ⟨rfl, nofun⟩
  | succ count ih =>
    refine each.bind fun value has => ih.bind fun values all => gives_pure ?_
    exact ⟨congrArg (· + 1) all.1, List.forall_mem_cons.mpr ⟨has, all.2⟩⟩

end Draw

namespace Fake

/-! ## Words -/

/-- No word of a list that is cut out of a text is empty, if the first one is not. -/
theorem WordList.get_ofText_ne {first : String} (text : String) (nonempty : first ≠ "")
    (place : Nat) : (WordList.ofText first text).get place ≠ "" := by
  cases place with
  | zero => exact nonempty
  | succ place =>
    show ((Text.words text).map String.ofList).toArray.getD place first ≠ ""
    rw [Array.getD_eq_getD_getElem?]
    cases found : ((Text.words text).map String.ofList).toArray[place]? with
    | none => exact nonempty
    | some word =>
      rw [List.getElem?_toArray, List.getElem?_map] at found
      obtain ⟨letters, member, rfl⟩ := Option.map_eq_some_iff.mp found
      intro empty
      have nothing := String.ofList_eq_empty_iff.mp empty
      exact Text.ne_nil_of_mem_words (List.mem_of_getElem? member) nothing

theorem get_firstNames_ne (place : Nat) : firstNames.get place ≠ "" := by
  rw [firstNames]
  exact WordList.get_ofText_ne _ (by decide) place

section

variable {ρ : Type} [RandomSource ρ]

theorem gives_pick {holds : String → Prop} (list : WordList)
    (each : ∀ place, holds (list.get place)) : (list.pick : Draw ρ String).Gives holds :=
  (Draw.gives_below32 (Nat.succ_pos _)).bind fun place _ => Draw.gives_pure (each place)

theorem gives_word (list : WordList) : (list.pick : Draw ρ String).Gives fun _ => True :=
  gives_pick list fun _ => trivial

theorem gives_smallName : (smallName : Draw ρ String).Gives (· ≠ "") := by
  rw [smallName]
  have picked : (firstNames.pick : Draw ρ String).Gives (· ≠ "") :=
    gives_pick firstNames get_firstNames_ne
  refine picked.bind fun name nonempty => ?_
  exact Draw.gives_pure fun empty => nonempty (String.map_eq_empty.mp empty)

/-- A user name is not empty. -/
theorem gives_userName : (userName : Draw ρ String).Gives (· ≠ "") := by
  rw [userName]
  refine Draw.gives_octet.bind fun form _ => ?_
  cases UserNameForm.of form with
  | name => exact gives_smallName
  | wordDotName =>
    refine (gives_word proseWords).bind fun word _ => gives_smallName.bind fun name nonempty => ?_
    exact Draw.gives_pure (by simp)
  | nameNumber =>
    refine gives_smallName.bind fun name nonempty => Draw.gives_octet.bind fun number _ => ?_
    exact Draw.gives_pure (by simp [nonempty])
  | nameLineWord =>
    refine gives_smallName.bind fun name nonempty => (gives_word proseWords).bind fun word _ => ?_
    exact Draw.gives_pure (by simp)

/-- A mail address has its sign. -/
theorem gives_email : (email : Draw ρ String).Gives ('@' ∈ ·.toList) := by
  rw [email]
  refine gives_userName.bind fun name _ => (gives_word providers).bind fun provider _ => ?_
  exact Draw.gives_pure (by simp)

theorem gives_fullName : (fullName : Draw ρ String).Gives fun _ => True := by
  rw [fullName]
  refine (gives_word firstNames).bind fun first _ => (gives_word lastNames).bind fun last _ => ?_
  exact Draw.gives_pure trivial

theorem gives_sentence {start stop : Nat} (some : start < stop) :
    (sentence start stop : Draw ρ String).Gives fun _ => True := by
  rw [sentence]
  refine (Draw.gives_range some).bind fun count _ => ?_
  refine (Draw.gives_times (gives_word proseWords) count).bind fun words _ => ?_
  exact Draw.gives_pure trivial

theorem gives_paragraph {start stop : Nat} (some : start < stop) :
    (paragraph start stop : Draw ρ String).Gives fun _ => True := by
  rw [paragraph]
  refine (Draw.gives_range some).bind fun count _ => ?_
  refine (Draw.gives_times (gives_sentence (by decide)) count).bind fun sentences _ => ?_
  exact Draw.gives_pure trivial

end
end Fake
end Seedbed

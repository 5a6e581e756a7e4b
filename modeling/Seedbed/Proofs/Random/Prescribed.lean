import Seedbed.Fake.Basic
import Seedbed.Proofs.User.Making
import Seedbed.Random.Script

/-!
# Draws from a script

Which value a draw makes of the words that a script prescribes, whatever follows them (`Takes`). One
draw after another takes the words of both (`Takes.bind`). The word zero is never drawn again: it is
the number zero below every bound, and the first word of every list.
-/

namespace Seedbed

namespace Draw

/-- Whatever follows, a draw takes some words of a script and gives a value. -/
def Takes (draw : Draw Script α) (words : List UInt64) (value : α) : Prop :=
  ∀ more state, draw.run ⟨words ++ more, state⟩ = .ok (value, ⟨more, state⟩)

theorem takes_pure (value : α) : Takes (pure value) [] value := fun _ _ => rfl

theorem Takes.bind {draw : Draw Script α} {next : α → Draw Script β} {words later : List UInt64}
    {value : α} {last : β} (first : draw.Takes words value)
    (rest : (next value).Takes later last) : (draw >>= next).Takes (words ++ later) last := by
  intro more state
  rw [List.append_assoc]
  exact run_bind_eq_ok_iff.mpr ⟨_, _, first _ _, rest _ _⟩

/-- A draw that is changed afterwards takes the same words. -/
theorem Takes.map {draw : Draw Script α} {words : List UInt64} {value : α}
    (takes : draw.Takes words value) (change : α → β) :
    (draw >>= fun value => pure (change value)).Takes words (change value) :=
  List.append_nil words ▸ takes.bind (takes_pure (change value))

theorem takes_octet (word : UInt64) : octet.Takes [word] (word.toUInt32.toNat % 256) :=
  fun _ _ => rfl

theorem takes_until? {word : Draw Script Nat} {accept : Nat → Option Nat} {words : List UInt64}
    {drawn value : Nat} (takes : word.Takes words drawn) (accepted : accept drawn = some value) :
    (until? word accept patience).Takes words value := by
  have more : patience = 4294967295 + 1 := rfl
  rw [more, until?, ← List.append_nil words]
  exact takes.bind (by rw [accepted]; exact takes_pure value)

theorem reduce?_zero (bits bound : Nat) : reduce? bits bound 0 = some 0 := by
  simp [reduce?]

theorem takes_below32 (bound : Nat) : (below32 bound).Takes [0] 0 :=
  takes_until? (fun _ _ => rfl) (reduce?_zero 32 bound)

theorem takes_below64 (bound : Nat) : (below64 bound).Takes [0] 0 :=
  takes_until? (fun _ _ => rfl) (reduce?_zero 64 bound)

theorem takes_range (start stop : Nat) : (range start stop).Takes [0] start :=
  (takes_below64 (stop - start)).map (start + ·)

theorem takes_times {draw : Draw Script α} {words : List UInt64} {value : α}
    (takes : draw.Takes words value) (count : Nat) :
    (times draw count).Takes (List.replicate count words).flatten (List.replicate count value) := by
  induction count with
  | zero => exact takes_pure []
  | succ count ih => exact takes.bind (ih.map (value :: ·))

/-- What can be and need not be, is so if the word is zero. -/
theorem takes_chance {rate : Decimal.Binary64} (sensible : rate.negative = false)
    (possible : 0 < rate.floorShifted 64) (uncertain : rate.floorShifted 64 < 2 ^ (64 : Nat)) :
    (chance rate).Takes [0] true := by
  have drawn : (word64 : Draw Script Nat).Takes [0] 0 := fun _ _ => rfl
  have takes := drawn.map fun word => decide (word < rate.floorShifted 64)
  rw [decide_eq_true possible] at takes
  unfold chance
  rw [sensible, Bool.false_and, if_neg Bool.false_ne_true, if_neg (Nat.ne_of_lt uncertain),
    if_neg (Nat.not_lt_of_lt uncertain)]
  exact takes

end Draw

namespace Fake

theorem takes_pick (list : WordList) : (list.pick : Draw Script String).Takes [0] list.first :=
  (Draw.takes_below32 list.size).map list.get

/-- A user name that a word of a script decides about. -/
def numberedName (word : UInt64) : String :=
  firstNames.first.toLower ++ toString (word.toUInt32.toNat % 256)

theorem takes_userName (word : UInt64) :
    (userName : Draw Script String).Takes [3, 0, word] (numberedName word) := by
  have name : (smallName : Draw Script String).Takes [0] firstNames.first.toLower :=
    (takes_pick firstNames).map String.toLower
  exact (Draw.takes_octet 3).bind (name.bind ((Draw.takes_octet word).map fun number =>
    firstNames.first.toLower ++ toString number))

/-- A mail address that a word of a script decides about. -/
def numberedEmail (word : UInt64) : String := numberedName word ++ "@" ++ providers.first

theorem takes_email (word : UInt64) :
    (email : Draw Script String).Takes [3, 0, word, 0] (numberedEmail word) :=
  (takes_userName word).bind ((takes_pick providers).map fun provider =>
    numberedName word ++ "@" ++ provider)

theorem takes_fullName :
    (fullName : Draw Script String).Takes [0, 0] (firstNames.first ++ " " ++ lastNames.first) :=
  (takes_pick firstNames).bind
    ((takes_pick lastNames).map fun last => firstNames.first ++ " " ++ last)

theorem numberedName_ne {word other : UInt64}
    (different : toString (word.toUInt32.toNat % 256) ≠ toString (other.toUInt32.toNat % 256)) :
    numberedName word ≠ numberedName other := fun same =>
  different ((String.append_right_inj _).mp same)

theorem numberedEmail_ne {word other : UInt64}
    (different : numberedName word ≠ numberedName other) :
    numberedEmail word ≠ numberedEmail other := fun same =>
  different ((String.append_left_inj _).mp ((String.append_left_inj _).mp same))

theorem takes_sentence (start stop : Nat) :
    (sentence start stop : Draw Script String).Takes (List.replicate (start + 1) 0)
      (" ".intercalate (List.replicate start proseWords.first) ++ ".") := by
  have words := (Draw.takes_times (takes_pick proseWords) start).map fun words =>
    " ".intercalate words ++ "."
  have flat : [0] ++ (List.replicate start [(0 : UInt64)]).flatten =
      List.replicate (start + 1) 0 := by
    rw [List.flatten_replicate_singleton, List.replicate_succ, List.singleton_append]
  exact flat ▸ Draw.Takes.bind (Draw.takes_range start stop) words

theorem takes_paragraph (start stop : Nat) :
    (paragraph start stop : Draw Script String).Takes (List.replicate (start * 5 + 1) 0)
      ("\n".intercalate (List.replicate start
        (" ".intercalate (List.replicate 4 proseWords.first) ++ "."))) := by
  have sentences := (Draw.takes_times (takes_sentence 4 10) start).map fun sentences =>
    "\n".intercalate sentences
  have flat : [0] ++ (List.replicate start (List.replicate 5 (0 : UInt64))).flatten =
      List.replicate (start * 5 + 1) 0 := by
    rw [List.flatten_replicate_replicate, List.replicate_succ, List.singleton_append]
  exact flat ▸ Draw.Takes.bind (Draw.takes_range start stop) sentences

end Fake

namespace UniqueValues

variable {values : UniqueValues} {candidate : Draw Script String} {words : List UInt64}
  {value : String}

theorem takes_claim_fresh (takes : candidate.Takes words value) (unseen : value ∉ values.taken)
    (allowed : 0 < values.attempts) :
    Draw.Takes (values.claim candidate) words (.ok value, values.insert value) := by
  obtain ⟨tries, enough⟩ := Nat.exists_eq_succ_of_ne_zero (Nat.ne_of_gt allowed)
  rw [claim, enough, ← List.append_nil words]
  refine Draw.Takes.bind takes ?_
  rw [if_neg (by simpa using unseen)]
  exact Draw.takes_pure _

/-- A claim that may try a single candidate fails if that is taken. -/
theorem takes_claim_taken (takes : candidate.Takes words value) (seen : value ∈ values.taken)
    (once : values.attempts = 1) :
    Draw.Takes (values.claim candidate) words
      (.error (.exhausted values.field values.attempts), values) := by
  rw [claim, once, ← List.append_nil words]
  refine Draw.Takes.bind takes ?_
  rw [if_pos (by simpa using seen), ← once]
  exact Draw.takes_pure _

end UniqueValues
end Seedbed

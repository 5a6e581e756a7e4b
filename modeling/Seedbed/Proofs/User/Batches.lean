import Seedbed.Proofs.User.Making

/-!
# Batches

A batch makes up its users one after the other, and ends with the first attempt that fails
(`ends_generateBatch_iff`). Two batches, the second from where the first has left generator and
source, are one batch; if the first fails, then there is no second (`composes_generateBatch`).
-/

namespace Seedbed

theorem Generation.Ends.unique {ρ : Type} {before after after' : UserGenerator}
    {source later later' : ρ} {step : Generation ρ α} {result result' : Except Failure α}
    (ends : step.Ends before source result after later)
    (ends' : step.Ends before source result' after' later') :
    result' = result ∧ after' = after ∧ later' = later := by
  unfold Generation.Ends at ends ends'
  rw [ends] at ends'
  cases ends'
  exact ⟨rfl, rfl, rfl⟩

namespace UserGenerator

open Generation

variable {ρ : Type} [RandomSource ρ] {count : Nat} {before after : UserGenerator} {source later : ρ}

/-! ## The first user of a batch -/

theorem ends_generateBatch_zero {result : Except Failure (List User)} :
    (generateBatch 0).Ends before source result after later ↔
      result = .ok [] ∧ after = before ∧ later = source := ends_pure

/-- A batch starts with one user, and goes on with a smaller batch. -/
theorem ends_generateBatch_succ {result : Except Failure (List User)} :
    (generateBatch (count + 1)).Ends before source result after later ↔
      (∃ failure, result = .error failure ∧
        generate.Ends before source (.error failure) after later) ∨
      ∃ user middle between others, generate.Ends before source (.ok user) middle between ∧
        (generateBatch count).Ends middle between others after later ∧
        result = others.map (user :: ·) := by
  rw [generateBatch, ends_bind]
  refine or_congr_right ⟨?_, ?_⟩
  · rintro ⟨user, middle, between, first, rest⟩
    rcases ends_bind.mp rest with ⟨failure, rfl, failed⟩ | ⟨others, _, _, made, ended⟩
    · exact ⟨user, middle, between, _, first, failed, rfl⟩
    · obtain ⟨rfl, rfl, rfl⟩ := ends_pure.mp ended
      exact ⟨user, middle, between, _, first, made, rfl⟩
  · rintro ⟨user, middle, between, others, first, rest, rfl⟩
    refine ⟨user, middle, between, first, ends_bind.mpr ?_⟩
    cases others with
    | error failure => exact .inl ⟨failure, rfl, rest⟩
    | ok made => exact .inr ⟨made, after, later, rest, ends_pure.mpr ⟨rfl, rfl, rfl⟩⟩

theorem ends_generateBatch_of_made {user : User} {middle : UserGenerator} {between : ρ}
    {result : Except Failure (List User)}
    (made : generate.Ends before source (.ok user) middle between)
    (ends : (generateBatch (count + 1)).Ends before source result after later) :
    ∃ others, (generateBatch count).Ends middle between others after later ∧
      result = others.map (user :: ·) := by
  rcases ends_generateBatch_succ.mp ends with ⟨_, _, failed⟩ | ⟨_, _, _, others, first, rest, same⟩
  · obtain ⟨differs, _⟩ := made.unique failed
    cases differs
  · obtain ⟨sameUser, rfl, rfl⟩ := made.unique first
    cases sameUser
    exact ⟨others, rest, same⟩

theorem eq_error_of_failed {failure : Failure} {middle : UserGenerator} {between : ρ}
    {result : Except Failure (List User)}
    (failed : generate.Ends before source (.error failure) middle between)
    (ends : (generateBatch (count + 1)).Ends before source result after later) :
    result = .error failure := by
  rcases ends_generateBatch_succ.mp ends with ⟨_, rfl, failed'⟩ | ⟨_, _, _, _, first, _⟩
  · obtain ⟨same, _⟩ := failed.unique failed'
    rw [Except.error.inj same]
  · obtain ⟨differs, _⟩ := failed.unique first
    cases differs

/-! ## The attempts of a batch -/

/-- From a generator and a source on, some attempts to make up a user come to these results, each
from where the one before it has left generator and source. -/
inductive Attempts : UserGenerator → ρ → List (Except Failure User) → UserGenerator → ρ → Prop where
  | none {generator : UserGenerator} {source : ρ} : Attempts generator source [] generator source
  | next {before middle after : UserGenerator} {source between later : ρ}
      {result : Except Failure User} {results : List (Except Failure User)}
      (ends : generate.Ends before source result middle between)
      (others : Attempts middle between results after later) :
      Attempts before source (result :: results) after later

theorem attempts_append {results others : List (Except Failure User)} :
    Attempts before source (results ++ others) after later ↔
      ∃ middle between, Attempts before source results middle between ∧
        Attempts middle between others after later := by
  constructor
  · intro attempts
    induction results generalizing before source with
    | nil => exact ⟨before, source, .none, attempts⟩
    | cons result results ih =>
      cases attempts with
      | next ends rest =>
        obtain ⟨middle, between, first, second⟩ := ih rest
        exact ⟨middle, between, .next ends first, second⟩
  · rintro ⟨middle, between, first, second⟩
    induction first with
    | none => exact second
    | next ends rest ih => exact .next ends (ih second)

/-- What the attempts of a batch of some size come to. The first failure is that of the batch, and
there is no further attempt. -/
inductive Batched : (count : Nat) → List (Except Failure User) → Except Failure (List User) → Prop
    where
  | done : Batched 0 [] (.ok [])
  | failed {count : Nat} {failure : Failure} :
      Batched (count + 1) [.error failure] (.error failure)
  | made {count : Nat} {user : User} {results : List (Except Failure User)}
      {result : Except Failure (List User)} (others : Batched count results result) :
      Batched (count + 1) (.ok user :: results) (result.map (user :: ·))

/-- A batch is its attempts. -/
theorem ends_generateBatch_iff {result : Except Failure (List User)} :
    (generateBatch count).Ends before source result after later ↔
      ∃ results, Attempts before source results after later ∧ Batched count results result := by
  constructor
  · intro ends
    induction count generalizing before source result with
    | zero =>
      obtain ⟨rfl, rfl, rfl⟩ := ends_generateBatch_zero.mp ends
      exact ⟨[], .none, .done⟩
    | succ count ih =>
      rcases ends_generateBatch_succ.mp ends with
        ⟨failure, rfl, failed⟩ | ⟨user, middle, between, others, first, rest, rfl⟩
      · exact ⟨[.error failure], .next failed .none, .failed⟩
      · obtain ⟨results, attempts, batched⟩ := ih rest
        exact ⟨.ok user :: results, .next first attempts, .made batched⟩
  · rintro ⟨results, attempts, batched⟩
    -- The attempts are as many as the rules of `Batched` have used, so each rule takes its own.
    induction batched generalizing before source with
    | done =>
      cases attempts with
      | none => exact ends_generateBatch_zero.mpr ⟨rfl, rfl, rfl⟩
    | failed =>
      cases attempts with
      | next ends others =>
        cases others with
        | none => exact ends_generateBatch_succ.mpr (.inl ⟨_, rfl, ends⟩)
    | made batched ih =>
      cases attempts with
      | next ends others =>
        exact ends_generateBatch_succ.mpr (.inr ⟨_, _, _, _, ends, ih others, rfl⟩)

/-- A batch that is made up takes one attempt for each user. -/
theorem Batched.all_made {results : List (Except Failure User)} {users : List User}
    (batched : Batched count results (.ok users)) :
    users.length = count ∧ results = users.map .ok := by
  generalize same : (Except.ok users : Except Failure (List User)) = result at batched
  induction batched generalizing users with
  | done =>
    cases same
    exact ⟨rfl, rfl⟩
  | failed => cases same
  | @made count user results result others ih =>
    cases result with
    | error failure => cases same
    | ok rest =>
      cases same
      obtain ⟨length, rfl⟩ := ih rfl
      exact ⟨congrArg Nat.succ length, rfl⟩

/-- A batch that fails has taken one attempt for each user before, and one more. -/
theorem Batched.last_failed {results : List (Except Failure User)} {failure : Failure}
    (batched : Batched count results (.error failure)) :
    ∃ users : List User, users.length < count ∧
      results = users.map .ok ++ [.error failure] := by
  generalize same : (Except.error failure : Except Failure (List User)) = result at batched
  induction batched with
  | done => cases same
  | failed =>
    cases same
    exact ⟨[], Nat.succ_pos _, rfl⟩
  | @made count user results result others ih =>
    cases result with
    | ok rest => cases same
    | error failure' =>
      cases same
      obtain ⟨users, fewer, rfl⟩ := ih rfl
      exact ⟨user :: users, Nat.succ_lt_succ fewer, rfl⟩

theorem Batched.of_users (users : List User) : Batched users.length (users.map .ok) (.ok users) := by
  induction users with
  | nil => exact .done
  | cons user users ih => exact .made ih

theorem Batched.of_failure {users : List User} {failure : Failure} (fewer : users.length < count) :
    Batched count (users.map .ok ++ [.error failure]) (.error failure) := by
  induction users generalizing count with
  | nil =>
    obtain ⟨count, rfl⟩ := Nat.exists_eq_succ_of_ne_zero (Nat.ne_of_gt fewer)
    exact .failed
  | cons user users ih =>
    obtain ⟨count, rfl⟩ := Nat.exists_eq_succ_of_ne_zero (Nat.ne_of_gt (Nat.zero_lt_of_lt fewer))
    exact .made (ih (Nat.lt_of_succ_lt_succ fewer))

theorem length_of_generateBatch {users : List User}
    (ends : (generateBatch count).Ends before source (.ok users) after later) :
    users.length = count := by
  obtain ⟨results, -, batched⟩ := ends_generateBatch_iff.mp ends
  exact batched.all_made.1

/-- Where a batch fails: some users are made up, and the attempt after them fails. -/
structure FailsAfter (count : Nat) (users : List User) (before middle : UserGenerator)
    (source between : ρ) (failure : Failure) (after : UserGenerator) (later : ρ) : Prop where
  fewer : users.length < count
  made : (generateBatch users.length).Ends before source (.ok users) middle between
  failed : generate.Ends middle between (.error failure) after later

theorem ends_generateBatch_error_iff {failure : Failure} :
    (generateBatch count).Ends before source (.error failure) after later ↔
      ∃ users middle between,
        FailsAfter count users before middle source between failure after later := by
  constructor
  · intro ends
    obtain ⟨results, attempts, batched⟩ := ends_generateBatch_iff.mp ends
    obtain ⟨users, fewer, rfl⟩ := batched.last_failed
    obtain ⟨middle, between, first, last⟩ := attempts_append.mp attempts
    cases last with
    | next failed none =>
      cases none with
      | none =>
        exact ⟨users, middle, between, fewer,
          ends_generateBatch_iff.mpr ⟨_, first, .of_users users⟩, failed⟩
  · rintro ⟨users, middle, between, fewer, made, failed⟩
    obtain ⟨results, attempts, batched⟩ := ends_generateBatch_iff.mp made
    obtain ⟨-, rfl⟩ := batched.all_made
    exact ends_generateBatch_iff.mpr ⟨_, attempts_append.mpr
      ⟨middle, between, attempts, .next failed .none⟩, .of_failure fewer⟩

/-! ## Two batches -/

theorem generateBatch_add (first second : Nat) :
    (generateBatch (first + second) : Generation ρ (List User)) = do
      let users ← generateBatch first
      let others ← generateBatch second
      return users ++ others := by
  induction first with
  | zero =>
    rw [Nat.zero_add]
    simp [generateBatch]
  | succ first ih =>
    rw [Nat.succ_add, generateBatch, generateBatch, ih]
    simp only [bind_assoc, pure_bind, List.cons_append]

/-- How a batch is made up of two, from a generator and a source on. -/
structure Composes (first second : Nat) (before : UserGenerator) (source : ρ) : Prop where
  /-- It is the one and then the other, also if one of them comes to no end. -/
  whole : (generateBatch (first + second) : Generation ρ (List User)) = do
    let users ← generateBatch first
    let others ← generateBatch second
    return users ++ others
  /-- It gives the users of both, if they are made up, -/
  made : ∀ users middle between others after later,
    (generateBatch first).Ends before source (.ok users) middle between →
    (generateBatch second).Ends middle between (.ok others) after later →
      (generateBatch (first + second)).Ends before source (.ok (users ++ others)) after later
  /-- it fails as the first does, which leaves generator and source as they are then, -/
  failedFirst : ∀ failure after later,
    (generateBatch first).Ends before source (.error failure) after later →
      (generateBatch (first + second)).Ends before source (.error failure) after later
  /-- and it fails as the second does. -/
  failedSecond : ∀ users middle between failure after later,
    (generateBatch first).Ends before source (.ok users) middle between →
    (generateBatch second).Ends middle between (.error failure) after later →
      (generateBatch (first + second)).Ends before source (.error failure) after later
  /-- A batch that fails has made as many attempts as it takes to the first that fails. -/
  attempts : ∀ count failure after later,
    (generateBatch count).Ends before source (.error failure) after later →
      ∃ users : List User, users.length < count ∧
        Attempts before source (users.map .ok ++ [.error failure]) after later
  /-- A batch of no users changes nothing. -/
  empty : ∀ result after later, (generateBatch 0).Ends before source result after later ↔
    result = .ok [] ∧ after = before ∧ later = source

/-- Whatever the state of the generator and the source. -/
theorem composes_generateBatch (first second : Nat) (before : UserGenerator) (source : ρ) :
    Composes first second before source := by
  -- The equation holds of the programs, so the three ends are those of a step after another.
  have whole := @generateBatch_add ρ _ first second
  refine ⟨whole, ?_, ?_, ?_, ?_, fun _ _ _ => ends_generateBatch_zero⟩
  · intro users middle between others after later made made'
    rw [whole]
    refine ends_bind.mpr (.inr ⟨users, middle, between, made, ?_⟩)
    exact ends_bind.mpr (.inr ⟨others, after, later, made', ends_pure.mpr ⟨rfl, rfl, rfl⟩⟩)
  · intro failure after later failed
    rw [whole]
    exact ends_bind.mpr (.inl ⟨failure, rfl, failed⟩)
  · intro users middle between failure after later made failed
    rw [whole]
    refine ends_bind.mpr (.inr ⟨users, middle, between, made, ?_⟩)
    exact ends_bind.mpr (.inl ⟨failure, rfl, failed⟩)
  · intro count failure after later failed
    obtain ⟨results, attempts, batched⟩ := ends_generateBatch_iff.mp failed
    obtain ⟨users, fewer, rfl⟩ := batched.last_failed
    exact ⟨users, fewer, attempts⟩

end UserGenerator
end Seedbed

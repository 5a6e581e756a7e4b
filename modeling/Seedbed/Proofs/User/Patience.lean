import Seedbed.Proofs.User.Life

/-!
# More patience

Two generators that differ only in how many candidates they may try for a user name or a mail
address, and draw from the same source. A claim that finds a new value within the smaller number
draws the same candidates with the greater one (`UniqueValues.claim_allowing`), and nothing else
depends on that number. So whatever the less patient generator makes up, the other does too, and
fails only where the first does (`outlasts_of_le`).
-/

namespace Seedbed

/-! ## Claims -/

namespace UniqueValues

variable {ρ : Type} {values after : UniqueValues} {candidate : Draw ρ String} {value : String}
  {tries more : Nat} {source later : ρ}

/-- These values, when one claim may try so many candidates. -/
def allowing (values : UniqueValues) (tries : Nat) : UniqueValues := { values with attempts := tries }

/-- A search that finds a value does not come to the candidates that it may try besides. -/
theorem search_allowing {attempts : Nat} (enough : tries ≤ more)
    (ran : (values.search candidate tries).run source = .ok ((.ok value, after), later)) :
    ((values.allowing attempts).search candidate more).run source =
      .ok ((.ok value, after.allowing attempts), later) := by
  induction tries generalizing source more with
  | zero => cases ran
  | succ tries ih =>
    obtain ⟨more, rfl⟩ := Nat.exists_eq_succ_of_ne_zero (Nat.ne_of_gt (Nat.zero_lt_of_lt enough))
    obtain ⟨drawn, middle, first, further⟩ := Draw.run_bind_eq_ok_iff.mp ran
    refine Draw.run_bind_eq_ok_iff.mpr ⟨drawn, middle, first, ?_⟩
    -- Both searches draw this candidate; whether it is claimed does not depend on their numbers.
    by_cases seen : values.taken.contains drawn
    · rw [if_pos seen] at further
      rw [if_pos (show (values.allowing attempts).taken.contains drawn from seen)]
      exact ih (Nat.le_of_succ_le_succ enough) further
    · rw [if_neg seen] at further
      rw [if_neg (show ¬ (values.allowing attempts).taken.contains drawn from seen)]
      cases further
      rfl

theorem claim_allowing (enough : values.attempts ≤ tries)
    (ran : (values.claim candidate).run source = .ok ((.ok value, after), later)) :
    ((values.allowing tries).claim candidate).run source =
      .ok ((.ok value, after.allowing tries), later) := search_allowing enough ran

end UniqueValues

namespace UserGenerator

open Generation

/-! ## One attempt -/

/-- This generator, when one claim may try so many candidates. -/
def allowing (generator : UserGenerator) (tries : Nat) : UserGenerator :=
  { generator with
    config := { generator.config with maxUniqueAttempts := tries }
    usernames := generator.usernames.allowing tries
    emails := generator.emails.allowing tries }

/-- Whether no claim of a generator may try more candidates than so many. -/
structure Within (tries : Nat) (generator : UserGenerator) : Prop where
  usernames : generator.usernames.attempts ≤ tries
  emails : generator.emails.attempts ≤ tries

variable {ρ : Type} [RandomSource ρ] {before after : UserGenerator} {source later : ρ} {tries : Nat}
  {result : Except Failure User}

theorem Within.generate (within : Within tries before)
    (generates : Generates before source result after later) : Within tries after := by
  obtain ⟨⟨_, names, -⟩, _, mails, -⟩ := claims_of_generates generates
  exact ⟨names.attempts_eq ▸ within.usernames, mails.attempts_eq ▸ within.emails⟩

/-- Unless there was no new value for a field, an identifier was asked for. -/
theorem Generates.idCalls_lt (generates : Generates before source result after later)
    (found : ∀ field attempts, result ≠ .error (.exhausted field attempts)) :
    before.idCalls < after.idCalls := by
  cases generates with
  | noUsername claim =>
    obtain ⟨rfl, -⟩ := (UniqueValues.claims_of_claim claim).eq_of_error
    exact absurd rfl (found _ _)
  | noEmail named claim =>
    obtain ⟨rfl, -⟩ := (UniqueValues.claims_of_claim claim).eq_of_error
    exact absurd rfl (found _ _)
  | noId named mailed overflow => exact Nat.lt_succ_self _
  | noHash named mailed numbered unhashed => exact Nat.lt_succ_self _
  | made named mailed numbered hashed drawn => exact Nat.lt_succ_self _

/-- Once an identifier was asked for, both claims have succeeded, and with more patience the same
comes of the attempt. -/
theorem Generates.allowing (within : Within tries before)
    (generates : Generates before source result after later)
    (asked : before.idCalls < after.idCalls) :
    Generates (before.allowing tries) source result (after.allowing tries) later := by
  obtain ⟨names, mails⟩ := within
  cases generates with
  -- These are the two cases that more patience may change.
  | noUsername claim => exact absurd asked (Nat.lt_irrefl _)
  | noEmail named claim => exact absurd asked (Nat.lt_irrefl _)
  | noId named mailed overflow =>
    exact .noId (UniqueValues.claim_allowing names named)
      (UniqueValues.claim_allowing mails mailed) overflow
  | noHash named mailed numbered unhashed =>
    exact .noHash (UniqueValues.claim_allowing names named)
      (UniqueValues.claim_allowing mails mailed) numbered unhashed
  | made named mailed numbered hashed drawn =>
    exact .made (UniqueValues.claim_allowing names named)
      (UniqueValues.claim_allowing mails mailed) numbered hashed drawn

/-! ## Batches -/

variable {count : Nat} {users : List User}

theorem Attempts.allowing (within : Within tries before)
    (attempts : Attempts before source (users.map .ok) after later) :
    Attempts (before.allowing tries) source (users.map .ok) (after.allowing tries) later ∧
      Within tries after := by
  induction users generalizing before source with
  | nil =>
    cases attempts with
    | none => exact ⟨.none, within⟩
  | cons user users ih =>
    cases attempts with
    | next ends others =>
      have generates := generates_of_ends ends
      have more := generates.allowing within (generates.idCalls_lt nofun)
      obtain ⟨rest, still⟩ := ih (within.generate generates) others
      exact ⟨.next (ends_of_generates more) rest, still⟩

/-- A batch comes to the users of its first attempts, whatever comes of the others. -/
theorem Attempts.starts_batch (attempts : Attempts before source (users.map .ok) after later)
    (fewer : users.length ≤ count) : users.map .ok <+: batchSteps count before source := by
  induction users generalizing before source count with
  | nil => exact List.nil_prefix
  | cons user users ih =>
    obtain ⟨count, rfl⟩ := Nat.exists_eq_add_of_le' fewer
    cases attempts with
    | next ends others =>
      rw [show count + (user :: users).length = count + users.length + 1 from rfl,
        batchSteps_made ends]
      exact List.cons_prefix_cons.mpr ⟨rfl, ih others (Nat.le_add_left _ _)⟩

/-- What comes of a batch of a patient generator where a batch of another one fails. -/
structure Reaches (tries count : Nat) (patient : UserGenerator) (source : ρ) (users : List User)
    (middle : UserGenerator) (between : ρ) (failure : Failure) (after : UserGenerator) (later : ρ) :
    Prop where
  /-- The users before the failure are made up here too, -/
  made : (generateBatch users.length).Ends patient source (.ok users) (middle.allowing tries) between
  /-- and a batch of the same size makes them up first. -/
  first : users.map .ok <+: batchSteps count patient source
  /-- If there was a new value for both fields, then it fails there too, and in the same way. -/
  fails : (∀ field attempts, failure ≠ .exhausted field attempts) ∨ middle.idCalls < after.idCalls →
    FailsAfter count users patient (middle.allowing tries) source between failure
        (after.allowing tries) later ∧
      (generateBatch count).Ends patient source (.error failure) (after.allowing tries) later

/-- How a batch of a patient generator compares with that of another one, from the same source. -/
structure Outlasts (tries count : Nat) (patient hasty : UserGenerator) (source : ρ) : Prop where
  /-- It succeeds wherever that does, with the same users, and leaves the same claimed values and
  the same source. -/
  succeeds : ∀ users after later,
    (generateBatch count).Ends hasty source (.ok users) after later →
      (generateBatch count).Ends patient source (.ok users) (after.allowing tries) later
  /-- It comes as far as where that fails. -/
  reaches : ∀ failure after later,
    (generateBatch count).Ends hasty source (.error failure) after later →
      ∃ users middle between,
        FailsAfter count users hasty middle source between failure after later ∧
          Reaches tries count patient source users middle between failure after later

theorem reaches_of_failsAfter {middle : UserGenerator} {between : ρ} {failure : Failure}
    (within : Within tries before)
    (fails : FailsAfter count users before middle source between failure after later) :
    Reaches tries count (before.allowing tries) source users middle between failure after later := by
  obtain ⟨fewer, made, failed⟩ := fails
  obtain ⟨results, attempts, batched⟩ := ends_generateBatch_iff.mp made
  obtain ⟨-, rfl⟩ := batched.all_made
  obtain ⟨more, still⟩ := attempts.allowing within
  have first : (generateBatch users.length).Ends (before.allowing tries) source (.ok users)
      (middle.allowing tries) between := ends_generateBatch_iff.mpr ⟨_, more, batched⟩
  refine ⟨first, more.starts_batch (Nat.le_of_lt fewer), fun found => ?_⟩
  have generates := generates_of_ends failed
  -- A hasher may tell of a missing value too, so the failure alone does not decide this.
  have asked : middle.idCalls < after.idCalls := by
    rcases found with found | asked
    · exact generates.idCalls_lt fun field attempts same =>
        found field attempts (Except.error.inj same)
    · exact asked
  have again : FailsAfter count users (before.allowing tries) (middle.allowing tries) source between
      failure (after.allowing tries) later :=
    ⟨fewer, first, ends_of_generates (generates.allowing still asked)⟩
  exact ⟨again, ends_generateBatch_error_iff.mpr ⟨_, _, _, again⟩⟩

/-- Whatever the source, the hasher and the identifiers are. -/
theorem outlasts_of_le {config : UserConfig} {tries : Nat} (more : config.maxUniqueAttempts ≤ tries)
    (hasher : Hasher) (ids : IdSource) (timestamp : Int) (count : Nat) (source : ρ) :
    Outlasts tries count (.new { config with maxUniqueAttempts := tries } hasher ids timestamp)
      (.new config hasher ids timestamp) source := by
  have within : Within tries (.new config hasher ids timestamp) := ⟨more, more⟩
  constructor
  · intro users after later ends
    obtain ⟨results, attempts, batched⟩ := ends_generateBatch_iff.mp ends
    obtain ⟨-, rfl⟩ := batched.all_made
    exact ends_generateBatch_iff.mpr ⟨_, (attempts.allowing within).1, batched⟩
  · intro failure after later ends
    obtain ⟨users, middle, between, fails⟩ := ends_generateBatch_error_iff.mp ends
    exact ⟨users, middle, between, fails, reaches_of_failsAfter within fails⟩

/-- A generator that may try one candidate fails at the second user, if it is given the words of the
first one again. -/
theorem outlasts_of_le_onceOnly : onceOnly.maxUniqueAttempts ≤ 2 ∧
    ∃ source : Script,
      (∃ failure after later, (generateBatch 2).Ends (.new onceOnly keeping backwards 7) source
        (.error failure) after later) ∧
      Outlasts 2 2 (.new { onceOnly with maxUniqueAttempts := 2 } keeping backwards 7)
        (.new onceOnly keeping backwards 7) source := by
  let start : UserGenerator := .new onceOnly keeping backwards 7
  have numbered : Ulid.nil.after? 5 0 = some (.ofParts 5 0) := rfl
  obtain ⟨user, first⟩ := @ends_of_words start 0 (.ofParts 5 0) onceOnly.password rfl nofun nofun
    Nat.one_pos Nat.one_pos numbered rfl [3, 0, 0]
  obtain ⟨failure, last, second⟩ := @ends_of_taken (start.following 0 (.ofParts 5 0)) 0
    List.mem_cons_self rfl
  have batch : (generateBatch 2).Ends start _ (.error failure) last _ :=
    ends_generateBatch_iff.mpr ⟨_, .next first (.next second .none), .made .failed⟩
  have more : onceOnly.maxUniqueAttempts ≤ 2 := by decide
  exact ⟨more, _, ⟨failure, last, _, batch⟩, outlasts_of_le more keeping backwards 7 2 _⟩

end UserGenerator
end Seedbed

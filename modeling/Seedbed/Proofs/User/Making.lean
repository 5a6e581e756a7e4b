import Seedbed.User.Generator

/-!
# Making up one user

All that can come of making up a user, and what it leaves behind (`generates_of_ends`): the user
name or the mail address may not be found, there may be no further identifier, and the password may
not be hashed; what was claimed before that stays claimed. What is drawn from the source depends on
the claimed values and on a few settings, but not on identifiers and hashes.
-/

namespace Seedbed

/-- A draw after another starts at the source that the first has left. -/
theorem Draw.run_bind_eq_ok_iff {ρ : Type} {draw : Draw ρ α} {next : α → Draw ρ β}
    {source later : ρ} {value : β} :
    (draw >>= next).run source = .ok (value, later) ↔
      ∃ first middle, draw.run source = .ok (first, middle) ∧
        (next first).run middle = .ok (value, later) := by
  rw [StateT.run_bind]
  cases ran : draw.run source with
  | error halt => simp [bind, Except.bind]
  | ok drawn =>
    obtain ⟨first, middle⟩ := drawn
    simp [bind, Except.bind, and_assoc]

/-! ## Claims -/

/-- What comes of a claim. -/
inductive UniqueValues.Claims (values : UniqueValues) :
    Except Failure String → UniqueValues → Prop where
  | fresh {value : String} (unseen : value ∉ values.taken) :
      Claims values (.ok value) (values.insert value)
  | exhausted : Claims values (.error (.exhausted values.field values.attempts)) values

theorem UniqueValues.claims_of_search {ρ : Type} {values after : UniqueValues}
    {candidate : Draw ρ String} {tries : Nat} {source later : ρ} {claimed : Except Failure String}
    (ran : (values.search candidate tries).run source = .ok ((claimed, after), later)) :
    values.Claims claimed after := by
  induction tries generalizing source with
  | zero =>
    cases ran
    exact .exhausted
  | succ tries ih =>
    obtain ⟨value, middle, -, further⟩ := Draw.run_bind_eq_ok_iff.mp ran
    split at further
    · exact ih further
    · rename_i unseen
      cases further
      exact .fresh (by simpa using unseen)

theorem UniqueValues.claims_of_claim {ρ : Type} {values after : UniqueValues}
    {candidate : Draw ρ String} {source later : ρ} {claimed : Except Failure String}
    (ran : (values.claim candidate).run source = .ok ((claimed, after), later)) :
    values.Claims claimed after := claims_of_search ran

section

variable {values after : UniqueValues} {result : Except Failure String}

theorem UniqueValues.Claims.suffix (claims : values.Claims result after) :
    values.taken <:+ after.taken := by
  cases claims with
  | fresh unseen => exact List.suffix_cons _ _
  | exhausted => exact List.suffix_refl _

/-- A claim does not change how many candidates the next one may try. -/
theorem UniqueValues.Claims.attempts_eq (claims : values.Claims result after) :
    after.attempts = values.attempts := by
  cases claims with
  | fresh unseen => rfl
  | exhausted => rfl

/-- What is left of a claim that fails. -/
theorem UniqueValues.Claims.eq_of_error {failure : Failure}
    (claims : values.Claims (.error failure) after) :
    failure = .exhausted values.field values.attempts ∧ after = values := by
  cases claims with
  | exhausted => exact ⟨rfl, rfl⟩

/-- What is left of a claim that succeeds. -/
theorem UniqueValues.Claims.eq_of_ok {value : String}
    (claims : values.Claims (.ok value) after) :
    value ∉ values.taken ∧ after = values.insert value := by
  cases claims with
  | fresh unseen => exact ⟨unseen, rfl⟩

end

/-! ## How a step ends -/

namespace Generation

variable {ρ : Type} {before after : UserGenerator} {source later : ρ}

/-- From a generator and a source on, a step ends with a result and leaves both as told. -/
def Ends (step : Generation ρ α) (before : UserGenerator) (source : ρ) (result : Except Failure α)
    (after : UserGenerator) (later : ρ) : Prop :=
  (step.run.run before).run source = .ok ((result, after), later)

/-- Whether something came out that is not a failure. -/
def succeeded : Except Halt ((Except Failure α × UserGenerator) × ρ) → Bool
  | .ok ((.ok _, _), _) => true
  | _ => false

theorem exists_ends_of_succeeded {step : Generation ρ α}
    (success : succeeded ((step.run.run before).run source) = true) :
    ∃ value after later, step.Ends before source (.ok value) after later := by
  unfold Ends
  generalize (step.run.run before).run source = ended at success ⊢
  match ended, success with
  | .ok ((.ok value, after), later), _ => exact ⟨value, after, later, rfl⟩

/-- A step after another starts where the first has ended, unless that has failed. -/
theorem ends_bind {step : Generation ρ α} {next : α → Generation ρ β} {result : Except Failure β} :
    (step >>= next).Ends before source result after later ↔
      (∃ failure, result = .error failure ∧ step.Ends before source (.error failure) after later) ∨
      ∃ value middle between, step.Ends before source (.ok value) middle between ∧
        (next value).Ends middle between result after later := by
  unfold Ends
  rw [ExceptT.run_bind, StateT.run_bind, StateT.run_bind]
  cases ran : (step.run.run before).run source with
  | error halt => simp [bind, Except.bind]
  | ok ended =>
    obtain ⟨⟨first, middle⟩, between⟩ := ended
    cases first with
    | error failure =>
      show Except.ok ((Except.error failure, middle), between) = .ok ((result, after), later) ↔ _
      constructor
      · intro same
        cases same
        exact .inl ⟨failure, rfl, rfl⟩
      · rintro (⟨_, rfl, same⟩ | ⟨_, _, _, same, _⟩)
        · cases same
          rfl
        · cases same
    | ok value => simp [bind, Except.bind, and_assoc]

theorem ends_settle {outcome result : Except Failure α} :
    (UserGenerator.settle outcome).Ends before source result after later ↔
      result = outcome ∧ after = before ∧ later = source := by
  constructor
  · intro ends
    cases ends
    exact ⟨rfl, rfl, rfl⟩
  · rintro ⟨rfl, rfl, rfl⟩
    rfl

theorem ends_pure {value : α} {result : Except Failure α} :
    (pure value : Generation ρ α).Ends before source result after later ↔
      result = .ok value ∧ after = before ∧ later = source := ends_settle

theorem ends_throw {failure : Failure} {result : Except Failure α} :
    (throw failure : Generation ρ α).Ends before source result after later ↔
      result = .error failure ∧ after = before ∧ later = source := ends_settle

theorem ends_get_bind {next : UserGenerator → Generation ρ α} {result : Except Failure α} :
    (get >>= next).Ends before source result after later ↔
      (next before).Ends before source result after later := Iff.rfl

theorem ends_set_bind {next : PUnit → Generation ρ α} {result : Except Failure α}
    {changed : UserGenerator} :
    (set changed >>= next).Ends before source result after later ↔
      (next ⟨⟩).Ends changed source result after later := Iff.rfl

theorem ends_modify_bind {next : PUnit → Generation ρ α} {result : Except Failure α}
    {change : UserGenerator → UserGenerator} :
    (modify change >>= next).Ends before source result after later ↔
      (next ⟨⟩).Ends (change before) source result after later := Iff.rfl

/-- A draw leaves the generator alone. -/
theorem run_draw_bind {what : Draw ρ α} {next : α → Generation ρ β} :
    (UserGenerator.draw what >>= next).run.run before =
      what >>= fun value => (next value).run.run before := by
  simp only [UserGenerator.draw, ExceptT.run_bind, ExceptT.run_lift, StateT.run_bind,
    StateT.run_lift, map_eq_pure_bind, bind_assoc, pure_bind]

/-- A draw does not fail. -/
theorem ends_draw_bind {what : Draw ρ α} {next : α → Generation ρ β} {result : Except Failure β} :
    (UserGenerator.draw what >>= next).Ends before source result after later ↔
      ∃ value between, what.run source = .ok (value, between) ∧
        (next value).Ends before between result after later := by
  unfold Ends
  rw [run_draw_bind]
  exact Draw.run_bind_eq_ok_iff

end Generation

/-! ## The steps of making up a user -/

namespace UserGenerator

open Generation

/-- The identifier that is made next; none if there is no further one. -/
def upcoming? (generator : UserGenerator) : Option Ulid :=
  generator.lastId.after? (generator.ids.clock generator.idCalls)
    (generator.ids.random generator.idCalls)

/-- What the hasher makes of the password next. -/
def hashed (generator : UserGenerator) : Except Failure String :=
  generator.hasher generator.hashCalls generator.config.password

/-- What is drawn for a user last, once the password is hashed. -/
structure Traits where
  displayName : String
  statusText : String
  profileContent : String
  badges : Int
  privileged : Bool
  verified : Bool

section

variable {ρ : Type} {before after : UserGenerator} {source later : ρ}

theorem ends_nextId {result : Except Failure Ulid} :
    nextId.Ends before source result after later ↔
      later = source ∧
        (before.upcoming? = none ∧ result = .error .idOverflow ∧
            after = { before with idCalls := before.idCalls + 1 } ∨
          ∃ id, before.upcoming? = some id ∧ result = .ok id ∧
            after = { before with idCalls := before.idCalls + 1, lastId := id }) := by
  simp only [nextId, ends_get_bind, ends_set_bind]
  split
  · rename_i id made
    simp only [ends_modify_bind, ends_pure, upcoming?, made, Option.some.injEq]
    grind
  · rename_i overflow
    simp only [ends_throw, upcoming?, overflow]
    grind

theorem ends_hashPassword {result : Except Failure String} :
    hashPassword.Ends before source result after later ↔
      result = before.hashed ∧ after = { before with hashCalls := before.hashCalls + 1 } ∧
        later = source := by
  simp only [hashPassword, ends_get_bind, ends_set_bind, ends_settle]
  rfl

end

variable {ρ : Type} [RandomSource ρ] {before after : UserGenerator} {source later : ρ}

/-- Draws the traits of a user. -/
def Traits.draw (config : UserConfig) : Draw ρ Traits := do
  let displayName ← Fake.fullName
  let sentence ← Fake.sentence 3 12
  let profileContent ← Fake.paragraph 2 5
  let badges ← drawBadges config.maxBadges
  let privileged ← Draw.chance config.privilegedRate
  let verified ← Draw.chance config.verifiedRate
  return {
    displayName, profileContent, badges, privileged, verified
    statusText := clip sentence config.statusTextLimit }

theorem ends_claimUsername {result : Except Failure String} :
    claimUsername.Ends before source result after later ↔
      ∃ usernames, (before.usernames.claim Fake.userName).run source =
        .ok ((result, usernames), later) ∧ after = { before with usernames } := by
  simp only [claimUsername, ends_get_bind, ends_draw_bind, ends_modify_bind, ends_settle]
  constructor
  · rintro ⟨⟨claimed, usernames⟩, between, ran, rfl, rfl, rfl⟩
    exact ⟨usernames, ran, rfl⟩
  · rintro ⟨usernames, ran, rfl⟩
    exact ⟨⟨result, usernames⟩, later, ran, rfl, rfl, rfl⟩

theorem ends_claimEmail {result : Except Failure String} :
    claimEmail.Ends before source result after later ↔
      ∃ emails, (before.emails.claim Fake.email).run source =
        .ok ((result, emails), later) ∧ after = { before with emails } := by
  simp only [claimEmail, ends_get_bind, ends_draw_bind, ends_modify_bind, ends_settle]
  constructor
  · rintro ⟨⟨claimed, emails⟩, between, ran, rfl, rfl, rfl⟩
    exact ⟨emails, ran, rfl⟩
  · rintro ⟨emails, ran, rfl⟩
    exact ⟨⟨result, emails⟩, later, ran, rfl, rfl, rfl⟩

/-- All that can come of making up a user, and what it leaves behind. -/
inductive Generates (before : UserGenerator) (source : ρ) :
    Except Failure User → UserGenerator → ρ → Prop where
  | noUsername {failure : Failure} {usernames : UniqueValues} {later : ρ}
      (claim : (before.usernames.claim Fake.userName).run source =
        .ok ((.error failure, usernames), later)) :
      Generates before source (.error failure) { before with usernames } later
  | noEmail {username : String} {failure : Failure} {usernames emails : UniqueValues}
      {between later : ρ}
      (named : (before.usernames.claim Fake.userName).run source =
        .ok ((.ok username, usernames), between))
      (claim : (before.emails.claim Fake.email).run between =
        .ok ((.error failure, emails), later)) :
      Generates before source (.error failure) { before with usernames, emails } later
  | noId {username email : String} {usernames emails : UniqueValues} {between later : ρ}
      (named : (before.usernames.claim Fake.userName).run source =
        .ok ((.ok username, usernames), between))
      (mailed : (before.emails.claim Fake.email).run between = .ok ((.ok email, emails), later))
      (overflow : before.upcoming? = none) :
      Generates before source (.error .idOverflow)
        { before with usernames, emails, idCalls := before.idCalls + 1 } later
  | noHash {username email : String} {usernames emails : UniqueValues} {id : Ulid}
      {failure : Failure} {between later : ρ}
      (named : (before.usernames.claim Fake.userName).run source =
        .ok ((.ok username, usernames), between))
      (mailed : (before.emails.claim Fake.email).run between = .ok ((.ok email, emails), later))
      (numbered : before.upcoming? = some id) (unhashed : before.hashed = .error failure) :
      Generates before source (.error failure)
        { before with
          usernames, emails
          idCalls := before.idCalls + 1
          lastId := id
          hashCalls := before.hashCalls + 1 } later
  | made {username email passwordHash : String} {usernames emails : UniqueValues} {id : Ulid}
      {traits : Traits} {between further later : ρ}
      (named : (before.usernames.claim Fake.userName).run source =
        .ok ((.ok username, usernames), between))
      (mailed : (before.emails.claim Fake.email).run between = .ok ((.ok email, emails), further))
      (numbered : before.upcoming? = some id) (hashed : before.hashed = .ok passwordHash)
      (drawn : (Traits.draw before.config).run further = .ok (traits, later)) :
      Generates before source
        (.ok {
          id, username, email, passwordHash
          displayName := traits.displayName
          badges := traits.badges
          statusText := traits.statusText
          statusPresence := before.config.statusPresence
          profileContent := traits.profileContent
          privileged := traits.privileged
          createdAt := before.timestamp
          updatedAt := before.timestamp
          verified := traits.verified })
        { before with
          usernames, emails
          idCalls := before.idCalls + 1
          lastId := id
          hashCalls := before.hashCalls + 1 } later

theorem generates_of_ends {result : Except Failure User}
    (ends : generate.Ends before source result after later) :
    Generates before source result after later := by
  unfold generate at ends
  rcases ends_bind.mp ends with ⟨failure, rfl, failed⟩ | ⟨username, _, between, first, rest⟩
  · obtain ⟨usernames, claim, rfl⟩ := ends_claimUsername.mp failed
    exact .noUsername claim
  obtain ⟨usernames, named, rfl⟩ := ends_claimUsername.mp first
  rcases ends_bind.mp rest with ⟨failure, rfl, failed⟩ | ⟨email, _, _, second, rest⟩
  · obtain ⟨emails, claim, rfl⟩ := ends_claimEmail.mp failed
    exact .noEmail named claim
  obtain ⟨emails, mailed, rfl⟩ := ends_claimEmail.mp second
  rcases ends_bind.mp rest with ⟨failure, rfl, failed⟩ | ⟨id, _, _, third, rest⟩
  · obtain ⟨rfl, ⟨overflow, same, rfl⟩ | ⟨id, made, same, rfl⟩⟩ := ends_nextId.mp failed
    · cases same
      exact .noId named mailed overflow
    · cases same
  obtain ⟨rfl, ⟨overflow, same, rfl⟩ | ⟨_, numbered, same, rfl⟩⟩ := ends_nextId.mp third
  · cases same
  cases same
  rcases ends_bind.mp rest with ⟨failure, rfl, failed⟩ | ⟨passwordHash, _, further, fourth, last⟩
  · obtain ⟨unhashed, rfl, rfl⟩ := ends_hashPassword.mp failed
    exact .noHash named mailed numbered unhashed.symm
  obtain ⟨hashed, rfl, rfl⟩ := ends_hashPassword.mp fourth
  simp only [ends_draw_bind, ends_get_bind, ends_pure] at last
  obtain ⟨displayName, s₁, one, sentence, s₂, two, profileContent, s₃, three, badges, s₄, four,
    privileged, s₅, five, verified, s₆, six, rfl, rfl, rfl⟩ := last
  have drawn : (Traits.draw before.config).run further = .ok (⟨displayName,
      clip sentence before.config.statusTextLimit, profileContent, badges, privileged, verified⟩,
      later) := by
    simp only [Traits.draw, Draw.run_bind_eq_ok_iff]
    exact ⟨_, _, one, _, _, two, _, _, three, _, _, four, _, _, five, _, _, six, rfl⟩
  exact .made named mailed numbered hashed.symm drawn

/-- Each of the two sets is left by a claim, which has found what the user is given. -/
theorem claims_of_generates {result : Except Failure User}
    (generates : Generates before source result after later) :
    (∃ named, before.usernames.Claims named after.usernames ∧
      ∀ user, result = .ok user → named = .ok user.username) ∧
    ∃ mailed, before.emails.Claims mailed after.emails ∧
      ∀ user, result = .ok user → mailed = .ok user.email := by
  have unmade (failure : Failure) (claimed : Except Failure String) (of : User → String) (user : User)
      (same : (.error failure : Except Failure User) = .ok user) : claimed = .ok (of user) := by
    cases same
  cases generates with
  | noUsername claim =>
    -- Mail addresses that nothing was claimed from are as after a claim that has failed.
    exact ⟨⟨_, UniqueValues.claims_of_claim claim, unmade _ _ _⟩, _, .exhausted, unmade _ _ _⟩
  | noEmail named claim =>
    exact ⟨⟨_, UniqueValues.claims_of_claim named, unmade _ _ _⟩,
      _, UniqueValues.claims_of_claim claim, unmade _ _ _⟩
  | noId named mailed overflow =>
    exact ⟨⟨_, UniqueValues.claims_of_claim named, unmade _ _ _⟩,
      _, UniqueValues.claims_of_claim mailed, unmade _ _ _⟩
  | noHash named mailed numbered unhashed =>
    exact ⟨⟨_, UniqueValues.claims_of_claim named, unmade _ _ _⟩,
      _, UniqueValues.claims_of_claim mailed, unmade _ _ _⟩
  | made named mailed numbered hashed drawn =>
    refine ⟨⟨_, UniqueValues.claims_of_claim named, ?_⟩,
      _, UniqueValues.claims_of_claim mailed, ?_⟩
    · rintro user ⟨⟩
      rfl
    · rintro user ⟨⟩
      rfl

/-- Each of these things can come of it. -/
theorem ends_of_generates {result : Except Failure User}
    (generates : Generates before source result after later) :
    generate.Ends before source result after later := by
  unfold generate
  cases generates with
  | noUsername claim =>
    exact ends_bind.mpr (.inl ⟨_, rfl, ends_claimUsername.mpr ⟨_, claim, rfl⟩⟩)
  | noEmail named claim =>
    refine ends_bind.mpr (.inr ⟨_, _, _, ends_claimUsername.mpr ⟨_, named, rfl⟩, ?_⟩)
    exact ends_bind.mpr (.inl ⟨_, rfl, ends_claimEmail.mpr ⟨_, claim, rfl⟩⟩)
  | noId named mailed overflow =>
    refine ends_bind.mpr (.inr ⟨_, _, _, ends_claimUsername.mpr ⟨_, named, rfl⟩, ?_⟩)
    refine ends_bind.mpr (.inr ⟨_, _, _, ends_claimEmail.mpr ⟨_, mailed, rfl⟩, ?_⟩)
    exact ends_bind.mpr (.inl ⟨_, rfl, ends_nextId.mpr ⟨rfl, .inl ⟨overflow, rfl, rfl⟩⟩⟩)
  | noHash named mailed numbered unhashed =>
    refine ends_bind.mpr (.inr ⟨_, _, _, ends_claimUsername.mpr ⟨_, named, rfl⟩, ?_⟩)
    refine ends_bind.mpr (.inr ⟨_, _, _, ends_claimEmail.mpr ⟨_, mailed, rfl⟩, ?_⟩)
    refine ends_bind.mpr (.inr ⟨_, _, _,
      ends_nextId.mpr ⟨rfl, .inr ⟨_, numbered, rfl, rfl⟩⟩, ?_⟩)
    exact ends_bind.mpr (.inl ⟨_, rfl, ends_hashPassword.mpr ⟨unhashed.symm, rfl, rfl⟩⟩)
  | made named mailed numbered hashed drawn =>
    refine ends_bind.mpr (.inr ⟨_, _, _, ends_claimUsername.mpr ⟨_, named, rfl⟩, ?_⟩)
    refine ends_bind.mpr (.inr ⟨_, _, _, ends_claimEmail.mpr ⟨_, mailed, rfl⟩, ?_⟩)
    refine ends_bind.mpr (.inr ⟨_, _, _,
      ends_nextId.mpr ⟨rfl, .inr ⟨_, numbered, rfl, rfl⟩⟩, ?_⟩)
    refine ends_bind.mpr (.inr ⟨_, _, _, ends_hashPassword.mpr ⟨hashed.symm, rfl, rfl⟩, ?_⟩)
    simp only [Traits.draw, Draw.run_bind_eq_ok_iff] at drawn
    obtain ⟨_, _, one, _, _, two, _, _, three, _, _, four, _, _, five, _, _, six, same⟩ := drawn
    cases same
    simp only [ends_draw_bind, ends_get_bind, ends_pure]
    exact ⟨_, _, one, _, _, two, _, _, three, _, _, four, _, _, five, _, _, six, rfl, trivial, rfl⟩

end UserGenerator
end Seedbed

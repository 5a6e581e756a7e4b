import Seedbed.Proofs.User.Life

/-!
# What an attempt leaves behind

Making up a user claims a user name and a mail address, makes an identifier and hashes the password,
in this order, and each of the four may fail. What was done before that stays done (`Leaves`). The
failure tells which of them it was (`Told`), unless it is the hasher's: that may be of any kind
(`claims_after_exhausted`). At every moment of a generator's life there are no more users than
claimed mail addresses, no more of them than claimed user names, and no more of those than attempts
(`accounted_of_life`).
-/

namespace Seedbed

namespace UserGenerator

open Generation

/-! ## One attempt -/

/-- Whether an identifier is the one that is made next. It is greater than the last one, as long as
the clock's time has no more bits than an identifier's. -/
structure Numbers (before : UserGenerator) (id : Ulid) : Prop where
  made : before.upcoming? = some id
  greater : before.ids.clock before.idCalls < 2 ^ Ulid.timeBits →
    before.lastId.value < id.value

theorem numbers_of_upcoming {before : UserGenerator} {id : Ulid}
    (made : before.upcoming? = some id) : before.Numbers id :=
  ⟨made, fun inRange => Ulid.lt_of_after?_eq_some inRange made⟩

/-- A generator once a user name and a mail address are claimed and an identifier was asked for. -/
def claiming (before : UserGenerator) (username email : String) : UserGenerator :=
  { before with
    usernames := before.usernames.insert username
    emails := before.emails.insert email
    idCalls := before.idCalls + 1 }

/-- It once that identifier is made and the password was given to the hasher. -/
def hashing (before : UserGenerator) (username email : String) (id : Ulid) : UserGenerator :=
  { before.claiming username email with
    lastId := id
    hashCalls := before.hashCalls + 1 }

/-- What an attempt to make up a user leaves behind, by what has come of it. -/
inductive Leaves (before : UserGenerator) : Except Failure User → UserGenerator → Prop where
  /-- Without a new user name nothing is changed. -/
  | noUsername :
      Leaves before (.error (.exhausted "username" before.config.maxUniqueAttempts)) before
  /-- Without a new mail address one user name is claimed, and nothing else is changed. -/
  | noEmail {username : String} (named : username ∉ before.usernames.taken) :
      Leaves before (.error (.exhausted "email" before.config.maxUniqueAttempts))
        { before with usernames := before.usernames.insert username }
  /-- Without an identifier one user name and one mail address are claimed. -/
  | noId {username email : String} (named : username ∉ before.usernames.taken)
      (mailed : email ∉ before.emails.taken) (overflow : before.upcoming? = none) :
      Leaves before (.error .idOverflow) (before.claiming username email)
  /-- If the password is not hashed, then an identifier is used up besides. -/
  | noHash {username email : String} {id : Ulid} {failure : Failure}
      (named : username ∉ before.usernames.taken) (mailed : email ∉ before.emails.taken)
      (numbered : before.Numbers id) (unhashed : before.hashed = .error failure) :
      Leaves before (.error failure) (before.hashing username email id)
  /-- A user is made up of what was claimed for it. -/
  | made {user : User} (named : user.username ∉ before.usernames.taken)
      (mailed : user.email ∉ before.emails.taken) (numbered : before.Numbers user.id)
      (hashed : before.hashed = .ok user.passwordHash) :
      Leaves before (.ok user) (before.hashing user.username user.email user.id)

/-- Whether the two sets of a generator are those for its settings. -/
structure Equipped (generator : UserGenerator) : Prop where
  usernames : generator.usernames.field = "username" ∧
    generator.usernames.attempts = generator.config.maxUniqueAttempts
  emails : generator.emails.field = "email" ∧
    generator.emails.attempts = generator.config.maxUniqueAttempts

section

variable {ρ : Type} [RandomSource ρ] {before after : UserGenerator} {source later : ρ}
  {result : Except Failure User}

theorem leaves_of_generates (equipped : before.Equipped)
    (generates : Generates before source result after later) : Leaves before result after := by
  cases generates with
  | noUsername claim =>
    obtain ⟨rfl, rfl⟩ := (UniqueValues.claims_of_claim claim).eq_of_error
    rw [equipped.usernames.1, equipped.usernames.2]
    exact .noUsername
  | noEmail named claim =>
    obtain ⟨new, rfl⟩ := (UniqueValues.claims_of_claim named).eq_of_ok
    obtain ⟨rfl, rfl⟩ := (UniqueValues.claims_of_claim claim).eq_of_error
    rw [equipped.emails.1, equipped.emails.2]
    exact .noEmail new
  | noId named mailed overflow =>
    obtain ⟨newName, rfl⟩ := (UniqueValues.claims_of_claim named).eq_of_ok
    obtain ⟨newMail, rfl⟩ := (UniqueValues.claims_of_claim mailed).eq_of_ok
    exact .noId newName newMail overflow
  | noHash named mailed numbered unhashed =>
    obtain ⟨newName, rfl⟩ := (UniqueValues.claims_of_claim named).eq_of_ok
    obtain ⟨newMail, rfl⟩ := (UniqueValues.claims_of_claim mailed).eq_of_ok
    exact .noHash newName newMail (numbers_of_upcoming numbered) unhashed
  | made named mailed numbered hashed drawn =>
    obtain ⟨newName, rfl⟩ := (UniqueValues.claims_of_claim named).eq_of_ok
    obtain ⟨newMail, rfl⟩ := (UniqueValues.claims_of_claim mailed).eq_of_ok
    exact .made newName newMail (numbers_of_upcoming numbered) hashed

theorem suffix_of_generates (generates : Generates before source result after later) :
    before.usernames.taken <:+ after.usernames.taken ∧
      before.emails.taken <:+ after.emails.taken := by
  obtain ⟨⟨_, names, -⟩, _, mails, -⟩ := claims_of_generates generates
  exact ⟨names.suffix, mails.suffix⟩

end

/-- What an attempt leaves behind, as its result tells. The hasher may fail in whatever way it likes,
also as if there were no new value, so it counts whether it was asked. -/
structure Told (before : UserGenerator) (result : Except Failure User) (after : UserGenerator) :
    Prop where
  noUsername : ∀ tries, result = .error (.exhausted "username" tries) →
    after.hashCalls = before.hashCalls → after = before
  noEmail : ∀ tries, result = .error (.exhausted "email" tries) →
    after.hashCalls = before.hashCalls →
      ∃ username ∉ before.usernames.taken,
        after = { before with usernames := before.usernames.insert username }
  noId : result = .error .idOverflow → after.hashCalls = before.hashCalls →
    before.upcoming? = none ∧
      ∃ username ∉ before.usernames.taken, ∃ email ∉ before.emails.taken,
        after = before.claiming username email
  /-- There is no other failure before the hasher is asked. -/
  early : ∀ failure, result = .error failure → after.hashCalls = before.hashCalls →
    failure = .exhausted "username" before.config.maxUniqueAttempts ∨
      failure = .exhausted "email" before.config.maxUniqueAttempts ∨ failure = .idOverflow
  /-- Once it is asked, the failure is its own, and that of a password never comes before. -/
  noHash : ∀ failure, result = .error failure →
    (after.hashCalls ≠ before.hashCalls ∨ ∃ text, failure = .passwordHash text) →
      before.hashed = .error failure ∧
        ∃ username ∉ before.usernames.taken, ∃ email ∉ before.emails.taken, ∃ id,
          before.Numbers id ∧ after = before.hashing username email id
  made : ∀ user, result = .ok user →
    user.username ∉ before.usernames.taken ∧ user.email ∉ before.emails.taken ∧
      before.Numbers user.id ∧ after = before.hashing user.username user.email user.id
  /-- A hasher that tells of nothing but passwords is told by its failures. -/
  plain : (∀ failure, before.hashed = .error failure → ∃ text, failure = .passwordHash text) →
    ∀ failure, result = .error failure → (∀ text, failure ≠ .passwordHash text) →
      after.hashCalls = before.hashCalls

section

variable {before after : UserGenerator} {result : Except Failure User}

/-- Before the hasher is asked, an attempt fails in one of three ways. -/
theorem told_of_early {failure : Failure} (same : after.hashCalls = before.hashCalls)
    (noUsername : ∀ tries, failure = .exhausted "username" tries → after = before)
    (noEmail : ∀ tries, failure = .exhausted "email" tries → ∃ username ∉ before.usernames.taken,
      after = { before with usernames := before.usernames.insert username })
    (noId : failure = .idOverflow → before.upcoming? = none ∧
      ∃ username ∉ before.usernames.taken, ∃ email ∉ before.emails.taken,
        after = before.claiming username email)
    (early : failure = .exhausted "username" before.config.maxUniqueAttempts ∨
      failure = .exhausted "email" before.config.maxUniqueAttempts ∨ failure = .idOverflow) :
    Told before (.error failure) after where
  noUsername tries failed _ := noUsername tries (Except.error.inj failed)
  noEmail tries failed _ := noEmail tries (Except.error.inj failed)
  noId failed _ := noId (Except.error.inj failed)
  early _ failed _ := Except.error.inj failed ▸ early
  noHash other failed asked := by
    cases failed
    rcases asked with asked | ⟨text, rfl⟩
    · exact absurd same asked
    · rcases early with other | other | other <;> cases other
  made _ made := by cases made
  plain _ _ _ _ := same

/-- Once the hasher is asked, one of each is used up. -/
theorem told_of_hashing {username email : String} {id : Ulid}
    (named : username ∉ before.usernames.taken) (mailed : email ∉ before.emails.taken)
    (numbered : before.Numbers id)
    (failed : ∀ failure, result = .error failure → before.hashed = .error failure)
    (made : ∀ user, result = .ok user →
      user.username = username ∧ user.email = email ∧ user.id = id) :
    Told before result (before.hashing username email id) := by
  have asked : (before.hashing username email id).hashCalls ≠ before.hashCalls :=
    Nat.succ_ne_self _
  refine ⟨?noUsername, ?noEmail, ?noId, ?early, ?noHash, ?made, ?plain⟩
  case noUsername | noEmail | early => exact fun _ _ same => absurd same asked
  case noId => exact fun _ same => absurd same asked
  case noHash =>
    exact fun failure same _ => ⟨failed failure same, _, named, _, mailed, _, numbered, rfl⟩
  case made =>
    intro user same
    obtain ⟨rfl, rfl, rfl⟩ := made user same
    exact ⟨named, mailed, numbered, rfl⟩
  case plain =>
    intro plain failure same other
    obtain ⟨text, rfl⟩ := plain failure (failed failure same)
    exact absurd rfl (other text)

theorem Leaves.told (leaves : Leaves before result after) : Told before result after := by
  cases leaves with
  | noUsername =>
    exact told_of_early rfl (fun _ _ => rfl) (fun _ same => by simp at same) nofun (.inl rfl)
  | noEmail named =>
    exact told_of_early rfl (fun _ same => by simp at same) (fun _ _ => ⟨_, named, rfl⟩) nofun
      (.inr (.inl rfl))
  | noId named mailed overflow =>
    exact told_of_early rfl nofun nofun (fun _ => ⟨overflow, _, named, _, mailed, rfl⟩)
      (.inr (.inr rfl))
  | noHash named mailed numbered unhashed =>
    exact told_of_hashing named mailed numbered
      (fun _ same => Except.error.inj same ▸ unhashed) nofun
  | made named mailed numbered hashed =>
    refine told_of_hashing named mailed numbered nofun fun user same => ?_
    cases same
    exact ⟨rfl, rfl, rfl⟩

theorem Leaves.equipped (leaves : Leaves before result after) (equipped : before.Equipped) :
    after.Equipped := by
  cases leaves with
  | noUsername => exact equipped
  | noEmail named => exact ⟨equipped.usernames, equipped.emails⟩
  | noId named mailed overflow => exact ⟨equipped.usernames, equipped.emails⟩
  | noHash named mailed numbered unhashed => exact ⟨equipped.usernames, equipped.emails⟩
  | made named mailed numbered hashed => exact ⟨equipped.usernames, equipped.emails⟩

end

/-! ## All attempts -/

/-- How the claimed values of a generator compare with its attempts so far. -/
structure Counted (steps : List (Except Failure User)) (generator : UserGenerator) : Prop where
  users_le : (users steps).length ≤ generator.emails.size
  emails_le : generator.emails.size ≤ generator.usernames.size
  usernames_le : generator.usernames.size ≤ steps.length

/-- An attempt claims one user name at most, a mail address only after that, and makes up a user only
after both. -/
theorem Leaves.grown {before after : UserGenerator} {result : Except Failure User}
    (leaves : Leaves before result after) :
    ∃ names mails, (users [result]).length ≤ mails ∧ mails ≤ names ∧ names ≤ 1 ∧
      after.usernames.size = before.usernames.size + names ∧
      after.emails.size = before.emails.size + mails := by
  cases leaves with
  | noUsername => exact ⟨0, 0, Nat.le_refl 0, Nat.le_refl 0, Nat.zero_le 1, rfl, rfl⟩
  | noEmail named => exact ⟨1, 0, Nat.le_refl 0, Nat.zero_le 1, Nat.le_refl 1, rfl, rfl⟩
  | noId named mailed overflow =>
    exact ⟨1, 1, Nat.zero_le 1, Nat.le_refl 1, Nat.le_refl 1, rfl, rfl⟩
  | noHash named mailed numbered unhashed =>
    exact ⟨1, 1, Nat.zero_le 1, Nat.le_refl 1, Nat.le_refl 1, rfl, rfl⟩
  | made named mailed numbered hashed =>
    exact ⟨1, 1, Nat.le_refl 1, Nat.le_refl 1, Nat.le_refl 1, rfl, rfl⟩

theorem Leaves.counted {steps : List (Except Failure User)} {before after : UserGenerator}
    {result : Except Failure User} (leaves : Leaves before result after)
    (counted : Counted steps before) : Counted (steps ++ [result]) after := by
  obtain ⟨users_le, emails_le, usernames_le⟩ := counted
  obtain ⟨names, mails, made, fewer, once, nameSize, mailSize⟩ := leaves.grown
  have all : (users (steps ++ [result])).length = (users steps).length + (users [result]).length := by
    rw [users_append, List.length_append]
  have attempts : (steps ++ [result]).length = steps.length + 1 := List.length_append
  exact ⟨by omega, by omega, by omega⟩

/-- What holds at every moment of a generator's life. -/
structure Accounted (steps : List (Except Failure User)) (generator : UserGenerator) : Prop where
  /-- Whatever comes of the next attempt, what it leaves behind depends on how far it has come. -/
  leaves : ∀ {ρ : Type} [RandomSource ρ] (source : ρ) result after later,
    generate.Ends generator source result after later → Leaves generator result after
  /-- Its result tells how far, and whether the hasher was asked. -/
  told : ∀ {ρ : Type} [RandomSource ρ] (source : ρ) result after later,
    generate.Ends generator source result after later → Told generator result after
  /-- What is claimed is never given up. -/
  kept : ∀ further after, Life generator further after →
    generator.usernames.taken <:+ after.usernames.taken ∧
      generator.emails.taken <:+ after.emails.taken
  /-- There are no more users than claimed mail addresses, and so on. -/
  counted : Counted steps generator

/-- Whatever is asked of a generator, from whatever sources, and whatever fails. -/
theorem accounted_of_life {config : UserConfig} {hasher : Hasher} {ids : IdSource} {timestamp : Int}
    {steps : List (Except Failure User)} {generator : UserGenerator}
    (life : Life (.new config hasher ids timestamp) steps generator) :
    Accounted steps generator := by
  -- What an attempt leaves is told by the settings, as long as both sets are those for them.
  have lived : generator.Equipped ∧ Counted steps generator := by
    refine life.keeps (fun steps generator => generator.Equipped ∧ Counted steps generator) ?_ ?_
    · rintro ρ _ steps before source result after later ⟨equipped, counted⟩ generates
      have leaves := leaves_of_generates equipped generates
      exact ⟨leaves.equipped equipped, leaves.counted counted⟩
    · exact ⟨⟨⟨rfl, rfl⟩, ⟨rfl, rfl⟩⟩, ⟨Nat.le_refl 0, Nat.le_refl 0, Nat.le_refl 0⟩⟩
  obtain ⟨equipped, counted⟩ := lived
  have leaves {ρ : Type} [RandomSource ρ] (source : ρ) (result : Except Failure User)
      (after : UserGenerator) (later : ρ)
      (ends : generate.Ends generator source result after later) : Leaves generator result after :=
    leaves_of_generates equipped (generates_of_ends ends)
  refine ⟨leaves, ?_, ?_, counted⟩
  · exact fun source result after later ends => (leaves source result after later ends).told
  · intro further after life
    refine life.keeps (fun _ after => generator.usernames.taken <:+ after.usernames.taken ∧
      generator.emails.taken <:+ after.emails.taken) ?_ ⟨List.suffix_refl _, List.suffix_refl _⟩
    rintro ρ _ steps before source result after later ⟨names, mails⟩ generates
    obtain ⟨moreNames, moreMails⟩ := suffix_of_generates generates
    exact ⟨names.trans moreNames, mails.trans moreMails⟩

theorem accounted_of_life_repeated : ∃ steps generator,
    Life (.new onceOnly keeping backwards 7) steps generator ∧
      steps.length = 3 ∧ (users steps).length = 2 ∧ Accounted steps generator := by
  obtain ⟨steps, generator, life, three, two⟩ := life_repeated
  exact ⟨steps, generator, life, three, two, accounted_of_life life⟩

/-- A hasher that fails as if there were no new user name. -/
def misleading : Hasher := fun _ _ => .error (.exhausted "username" 1)

/-- An attempt that tells of a missing user name may have used up a name, an address and an
identifier. -/
theorem claims_after_exhausted : ∃ after,
    generate.Ends (.new onceOnly misleading backwards 7) (⟨[3, 0, 0, 3, 0, 0, 0], 0⟩ : Script)
      (.error (.exhausted "username" onceOnly.maxUniqueAttempts)) after ⟨[], 0⟩ ∧
      after.usernames.size = 1 ∧ after.emails.size = 1 ∧ after.lastId = .ofParts 5 0 := by
  let start : UserGenerator := .new onceOnly misleading backwards 7
  have numbered : Ulid.nil.after? 5 0 = some (.ofParts 5 0) := rfl
  have named := UniqueValues.takes_claim_fresh (Fake.takes_userName 0)
    (nofun : Fake.numberedName 0 ∉ start.usernames.taken) Nat.one_pos
  have mailed := UniqueValues.takes_claim_fresh (Fake.takes_email 0)
    (nofun : Fake.numberedEmail 0 ∉ start.emails.taken) Nat.one_pos
  have generates : Generates start _ _ _ _ := .noHash (named [3, 0, 0, 0] 0) (mailed [] 0) numbered rfl
  exact ⟨_, ends_of_generates generates, rfl, rfl, rfl⟩

end UserGenerator
end Seedbed

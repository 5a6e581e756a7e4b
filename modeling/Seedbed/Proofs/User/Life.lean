import Seedbed.Proofs.Random.Prescribed
import Seedbed.Proofs.Ulid.Order
import Seedbed.Proofs.User.Batches

/-!
# The life of a generator

Users are made up in single steps and in batches, each time from a source of any kind, and any step
may fail (`Life`). What holds for the whole life: no user name and no mail address is given twice,
identifiers grow, and there is one time stamp. That goes for the users of a batch that failed later
too. What carries it is a condition on the users so far and on the generator (`Tracks`), which every
step keeps, whatever comes of it.
-/

namespace Seedbed

/-! ## Identifiers -/

namespace IdSource

/-- The last identifier after some calls. -/
def last (ids : IdSource) : (calls : Nat) → Ulid
  | 0 => .nil
  | calls + 1 =>
    ((ids.last calls).after? (ids.clock calls) (ids.random calls)).getD (ids.last calls)

/-- Whether each call gives an identifier that is greater than the previous one, or none. -/
def Grows (ids : IdSource) : Prop :=
  ∀ calls id, (ids.last calls).after? (ids.clock calls) (ids.random calls) = some id →
    (ids.last calls).value < id.value

/-- The clock may go backwards, as long as its time has no more bits than an identifier's. -/
theorem grows_of_clock_lt {ids : IdSource}
    (inRange : ∀ calls, ids.clock calls < 2 ^ Ulid.timeBits) : ids.Grows :=
  fun calls _ made => Ulid.lt_of_after?_eq_some (inRange calls) made

end IdSource

/-! ## Claims -/

/-- Whether some different values have been claimed. -/
structure UniqueValues.Covers (values : UniqueValues) (claimed : List String) : Prop where
  distinct : claimed.Nodup
  taken : ∀ value ∈ claimed, value ∈ values.taken

namespace UniqueValues

variable {values after : UniqueValues} {claimed : List String} {result : Except Failure String}

/-- What has been claimed stays claimed. -/
theorem Covers.stay (covers : values.Covers claimed) (claims : values.Claims result after) :
    after.Covers claimed := by
  cases claims with
  | fresh unseen =>
    exact ⟨covers.distinct, fun value member => List.mem_cons_of_mem _ (covers.taken value member)⟩
  | exhausted => exact covers

/-- A claimed value is none of those before. -/
theorem Covers.append {value : String} (covers : values.Covers claimed)
    (claims : values.Claims (.ok value) after) : after.Covers (claimed ++ [value]) := by
  cases claims with
  | fresh unseen =>
    constructor
    · refine List.nodup_append.mpr ⟨covers.distinct, List.pairwise_singleton _ value, ?_⟩
      rintro earlier member _ last rfl
      rw [List.mem_singleton.mp last] at member
      exact unseen (covers.taken value member)
    · intro other member
      rcases List.mem_append.mp member with earlier | last
      · exact List.mem_cons_of_mem _ (covers.taken other earlier)
      · rw [List.mem_singleton.mp last]
        exact List.mem_cons_self

end UniqueValues

namespace UserGenerator

open Generation

/-! ## Lives -/

section

variable {ρ : Type} [RandomSource ρ]

/-- What the steps of a batch come to. The first failure is the last of them; a halt ends them
too. -/
def batchSteps : (count : Nat) → UserGenerator → ρ → List (Except Failure User)
  | 0, _, _ => []
  | count + 1, generator, source =>
    match (generate.run.run generator).run source with
    | .error _ => []
    | .ok ((.error failure, _), _) => [.error failure]
    | .ok ((.ok user, generator), source) => .ok user :: batchSteps count generator source

variable {count : Nat} {before after : UserGenerator} {source later : ρ}

theorem batchSteps_made {user : User} (made : generate.Ends before source (.ok user) after later) :
    batchSteps (count + 1) before source = .ok user :: batchSteps count after later := by
  rw [batchSteps, made]

theorem batchSteps_failed {failure : Failure}
    (failed : generate.Ends before source (.error failure) after later) :
    batchSteps (count + 1) before source = [.error failure] := by
  rw [batchSteps, failed]

end

/-- The users that were made up in some steps. -/
def users (steps : List (Except Failure User)) : List User := steps.filterMap Except.toOption

@[simp] theorem users_ok (user : User) : users [.ok user] = [user] := rfl

@[simp] theorem users_error (failure : Failure) : users [.error failure] = [] := rfl

theorem users_append (earlier later : List (Except Failure User)) :
    users (earlier ++ later) = users earlier ++ users later := List.filterMap_append

/-- Whatever comes of a step: what was claimed for the users so far stays claimed, and what the user
is given is none of it. -/
theorem covers_step {values after : UniqueValues} {made : List User} {of : User → String}
    {result : Except Failure User} {claimed : Except Failure String}
    (covers : values.Covers (made.map of)) (claims : values.Claims claimed after)
    (gives : ∀ user, result = .ok user → claimed = .ok (of user)) :
    after.Covers ((made ++ users [result]).map of) := by
  cases result with
  | error failure =>
    rw [users_error, List.append_nil]
    exact covers.stay claims
  | ok user =>
    rw [users_ok, List.map_append]
    rw [gives user rfl] at claims
    exact covers.append claims

/-- What the steps of a generator have come to since some moment, and the generator after them.
Every call has a source of its own. -/
inductive Life (start : UserGenerator) : List (Except Failure User) → UserGenerator → Prop where
  | start : Life start [] start
  | generate {steps : List (Except Failure User)} {before after : UserGenerator} {ρ : Type}
      [RandomSource ρ] {source later : ρ} {result : Except Failure User}
      (life : Life start steps before) (ends : generate.Ends before source result after later) :
      Life start (steps ++ [result]) after
  | batch {steps : List (Except Failure User)} {before after : UserGenerator} {ρ : Type}
      [RandomSource ρ] {source later : ρ} {result : Except Failure (List User)}
      (life : Life start steps before) (count : Nat)
      (ends : (generateBatch count).Ends before source result after later) :
      Life start (steps ++ batchSteps count before source) after

section

variable {ρ : Type} [RandomSource ρ] {count : Nat} {before after : UserGenerator} {source later : ρ}
  {result : Except Failure (List User)} {results : List (Except Failure User)}

theorem batchSteps_of_attempts (attempts : Attempts before source results after later)
    (batched : Batched count results result) : batchSteps count before source = results := by
  induction batched generalizing before source with
  | done => rfl
  | failed =>
    cases attempts with
    | next ends others => exact batchSteps_failed ends
  | made batched ih =>
    cases attempts with
    | next ends others => rw [batchSteps_made ends, ih others]

/-- A batch is its steps. -/
theorem attempts_of_batch (ends : (generateBatch count).Ends before source result after later) :
    Attempts before source (batchSteps count before source) after later ∧
      Batched count (batchSteps count before source) result := by
  obtain ⟨results, attempts, batched⟩ := ends_generateBatch_iff.mp ends
  rw [batchSteps_of_attempts attempts batched]
  exact ⟨attempts, batched⟩

end

section

variable (holds : List (Except Failure User) → UserGenerator → Prop)

/-- What every step keeps, some attempts keep. -/
theorem Attempts.keeps {ρ : Type} [RandomSource ρ] {before after : UserGenerator}
    {source later : ρ} {steps results : List (Except Failure User)}
    (kept : ∀ {steps before source result after later}, holds steps before →
      Generates before (source : ρ) result after later → holds (steps ++ [result]) after)
    (attempts : Attempts before source results after later) (so : holds steps before) :
    holds (steps ++ results) after := by
  induction attempts generalizing steps with
  | none => rwa [List.append_nil]
  | next ends others ih =>
    rw [List.append_cons]
    exact ih (kept so (generates_of_ends ends))

/-- What holds at first and is kept by every step, whatever comes of it, holds for life. -/
theorem Life.keeps {start generator : UserGenerator} {steps : List (Except Failure User)}
    (kept : ∀ {ρ : Type} [RandomSource ρ] {steps before source result after later},
      holds steps before → Generates before (source : ρ) result after later →
        holds (steps ++ [result]) after)
    (life : Life start steps generator) (initially : holds [] start) : holds steps generator := by
  induction life with
  | start => exact initially
  | generate life ends so => exact kept so (generates_of_ends ends)
  | batch life count ends so => exact (attempts_of_batch ends).1.keeps holds kept so

end

/-! ## What holds for life -/

/-- How a generator and the users that it has made up so far hold together. -/
structure Tracks (ids : IdSource) (timestamp : Int) (made : List User) (generator : UserGenerator) :
    Prop where
  supplied : generator.ids = ids
  stamp : generator.timestamp = timestamp
  last : generator.lastId = ids.last generator.idCalls
  usernames : generator.usernames.Covers (made.map (·.username))
  emails : generator.emails.Covers (made.map (·.email))
  ascending : made.Pairwise fun earlier later => earlier.id.value < later.id.value
  latest : ∀ user ∈ made, user.id.value ≤ generator.lastId.value
  stamped : ∀ user ∈ made, user.createdAt = timestamp ∧ user.updatedAt = timestamp

section

variable {ids : IdSource} {timestamp : Int} {made : List User} {before after : UserGenerator}

theorem tracks_new (config : UserConfig) (hasher : Hasher) (ids : IdSource) (timestamp : Int) :
    Tracks ids timestamp [] (.new config hasher ids timestamp) where
  supplied := rfl
  stamp := rfl
  last := rfl
  usernames := ⟨List.nodup_nil, nofun⟩
  emails := ⟨List.nodup_nil, nofun⟩
  ascending := .nil
  latest := nofun
  stamped := nofun

theorem Tracks.upcoming (tracks : Tracks ids timestamp made before) :
    before.upcoming? = (ids.last before.idCalls).after? (ids.clock before.idCalls)
      (ids.random before.idCalls) := by
  rw [upcoming?, tracks.last, tracks.supplied]

/-- No further identifier leaves the last one. -/
theorem Tracks.last_of_none (tracks : Tracks ids timestamp made before)
    (overflow : before.upcoming? = none) :
    before.lastId = ids.last (before.idCalls + 1) := by
  rw [IdSource.last, ← tracks.upcoming, overflow, tracks.last]
  rfl

/-- A further identifier is the greatest so far. -/
theorem Tracks.last_of_some (tracks : Tracks ids timestamp made before) (grows : ids.Grows)
    {id : Ulid} (numbered : before.upcoming? = some id) :
    id = ids.last (before.idCalls + 1) ∧ before.lastId.value < id.value := by
  constructor
  · rw [IdSource.last, ← tracks.upcoming, numbered]
    rfl
  · rw [tracks.last]
    exact grows before.idCalls id (tracks.upcoming ▸ numbered)

/-- Whatever comes of making up a user, generator and users hold together. -/
theorem Tracks.generate {ρ : Type} [RandomSource ρ] {source later : ρ}
    {result : Except Failure User} (grows : ids.Grows) (tracks : Tracks ids timestamp made before)
    (generates : Generates before source result after later) :
    Tracks ids timestamp (made ++ users [result]) after := by
  obtain ⟨⟨_, named, givesName⟩, _, mailed, givesMail⟩ := claims_of_generates generates
  have usernames := covers_step tracks.usernames named givesName
  have emails := covers_step tracks.emails mailed givesMail
  cases generates with
  | noUsername claim =>
    rw [users_error, List.append_nil] at usernames emails ⊢
    exact { tracks with usernames, emails }
  | noEmail named claim =>
    rw [users_error, List.append_nil] at usernames emails ⊢
    exact { tracks with usernames, emails }
  | noId named mailed overflow =>
    rw [users_error, List.append_nil] at usernames emails ⊢
    exact { tracks with usernames, emails, last := tracks.last_of_none overflow }
  | noHash named mailed numbered unhashed =>
    rw [users_error, List.append_nil] at usernames emails ⊢
    obtain ⟨last, greater⟩ := tracks.last_of_some grows numbered
    have below : ∀ user ∈ made, user.id.value < _ := fun user member =>
      Nat.lt_of_le_of_lt (tracks.latest user member) greater
    exact { tracks with
      usernames, emails, last
      latest := fun user member => Nat.le_of_lt (below user member) }
  | made named mailed numbered hashed drawn =>
    rw [users_ok] at usernames emails ⊢
    obtain ⟨last, greater⟩ := tracks.last_of_some grows numbered
    have below : ∀ user ∈ made, user.id.value < _ := fun user member =>
      Nat.lt_of_le_of_lt (tracks.latest user member) greater
    refine ⟨tracks.supplied, tracks.stamp, last, usernames, emails, ?_, ?_, ?_⟩
    · refine List.pairwise_append.mpr ⟨tracks.ascending, List.pairwise_singleton _ _, ?_⟩
      intro user member _ last
      rw [List.mem_singleton.mp last]
      exact below user member
    · refine List.forall_mem_append.mpr ⟨fun user member => Nat.le_of_lt (below user member), ?_⟩
      exact List.forall_mem_singleton.mpr (Nat.le_refl _)
    · refine List.forall_mem_append.mpr ⟨tracks.stamped, List.forall_mem_singleton.mpr ?_⟩
      exact ⟨tracks.stamp, tracks.stamp⟩

theorem tracks_of_life {config : UserConfig} {hasher : Hasher} {steps : List (Except Failure User)}
    (grows : ids.Grows) (life : Life (.new config hasher ids timestamp) steps after) :
    Tracks ids timestamp (users steps) after := by
  refine life.keeps (fun steps generator => Tracks ids timestamp (users steps) generator) ?_
    (tracks_new config hasher ids timestamp)
  intro ρ _ steps before source result after later tracks generates
  rw [users_append]
  exact tracks.generate grows generates

end

/-! ## A script for a life -/

/-- Settings under which a taken user name or mail address is a failure at once. -/
def onceOnly : UserConfig := { maxUniqueAttempts := 1 }

/-- With the usual odds, the traits of a user take twenty words, which may all be zero. -/
theorem takes_traits {config : UserConfig} (some : 0 ≤ config.maxBadges)
    (privileged : config.privilegedRate = onceOnly.privilegedRate)
    (verified : config.verifiedRate = onceOnly.verifiedRate) :
    ∃ traits, Draw.Takes (Traits.draw config) (List.replicate 20 0) traits ∧
      traits.statusText = clip (" ".intercalate (List.replicate 3 Fake.proseWords.first) ++ ".")
        config.statusTextLimit := by
  have badges : Draw.Takes (drawBadges config.maxBadges) [0] 0 := by
    rw [drawBadges, if_neg (Int.not_lt.mpr some)]
    exact (Draw.takes_below32 _).map Int.ofNat
  have privileged : (Draw.chance config.privilegedRate).Takes [0] true := by
    rw [privileged]
    exact Draw.takes_chance (by decide +kernel) (by decide +kernel) (by decide +kernel)
  have verified : (Draw.chance config.verifiedRate).Takes [0] true := by
    rw [verified]
    exact Draw.takes_chance (by decide +kernel) (by decide +kernel) (by decide +kernel)
  exact ⟨_, Fake.takes_fullName.bind <| (Fake.takes_sentence 3 12).bind <|
    (Fake.takes_paragraph 2 5).bind <| badges.bind <| privileged.bind <| verified.bind <|
      Draw.takes_pure _, rfl⟩

/-- A clock that goes backwards. -/
def backwards : IdSource := ⟨fun calls => 5 - calls, fun _ => 0⟩

/-- A hasher that keeps passwords as they are. -/
def keeping : Hasher := fun _ password => .ok password

/-- A generator after it has made up a user from a word of a script. -/
def following (before : UserGenerator) (word : UInt64) (id : Ulid) : UserGenerator :=
  { before with
    usernames := before.usernames.insert (Fake.numberedName word)
    emails := before.emails.insert (Fake.numberedEmail word)
    idCalls := before.idCalls + 1
    lastId := id
    hashCalls := before.hashCalls + 1 }

/-- With the usual odds, a user is made up from these words, if the values are new. -/
theorem ends_of_zeroes {before : UserGenerator} (word : UInt64) {id : Ulid} {passwordHash : String}
    (some : 0 ≤ before.config.maxBadges)
    (privileged : before.config.privilegedRate = onceOnly.privilegedRate)
    (verified : before.config.verifiedRate = onceOnly.verifiedRate)
    (unnamed : Fake.numberedName word ∉ before.usernames.taken)
    (unmailed : Fake.numberedEmail word ∉ before.emails.taken)
    (names : 0 < before.usernames.attempts) (mails : 0 < before.emails.attempts)
    (numbered : before.upcoming? = .some id) (hashed : before.hashed = .ok passwordHash)
    (more : List UInt64) :
    ∃ user, generate.Ends before
        (⟨[3, 0, word] ++ ([3, 0, word, 0] ++ (List.replicate 20 0 ++ more)), 0⟩ : Script)
        (.ok user) (before.following word id) ⟨more, 0⟩ ∧
      user.statusText = clip (" ".intercalate (List.replicate 3 Fake.proseWords.first) ++ ".")
        before.config.statusTextLimit := by
  obtain ⟨traits, drawn, status⟩ := takes_traits some privileged verified
  exact ⟨_, ends_of_generates (.made
    (UniqueValues.takes_claim_fresh (Fake.takes_userName word) unnamed names _ 0)
    (UniqueValues.takes_claim_fresh (Fake.takes_email word) unmailed mails _ 0)
    numbered hashed (drawn more 0)), status⟩

theorem ends_of_words {before : UserGenerator} (word : UInt64) {id : Ulid} {passwordHash : String}
    (same : before.config = onceOnly) (unnamed : Fake.numberedName word ∉ before.usernames.taken)
    (unmailed : Fake.numberedEmail word ∉ before.emails.taken)
    (names : 0 < before.usernames.attempts) (mails : 0 < before.emails.attempts)
    (numbered : before.upcoming? = some id) (hashed : before.hashed = .ok passwordHash)
    (more : List UInt64) :
    ∃ user, generate.Ends before
      (⟨[3, 0, word] ++ ([3, 0, word, 0] ++ (List.replicate 20 0 ++ more)), 0⟩ : Script) (.ok user)
      (before.following word id) ⟨more, 0⟩ := by
  obtain ⟨user, ends, -⟩ := ends_of_zeroes word (by rw [same]; decide) (by rw [same])
    (by rw [same]) unnamed unmailed names mails numbered hashed more
  exact ⟨user, ends⟩

/-- If the only name that may be tried is taken, no user is made up. -/
theorem ends_of_taken {before : UserGenerator} (word : UInt64)
    (taken : Fake.numberedName word ∈ before.usernames.taken)
    (once : before.usernames.attempts = 1) :
    ∃ failure after, generate.Ends before (⟨[3, 0, word], 0⟩ : Script) (.error failure) after
      ⟨[], 0⟩ :=
  ⟨_, _, ends_of_generates (.noUsername
    (UniqueValues.takes_claim_taken (Fake.takes_userName word) taken once [] 0))⟩

/-- A life in which the clock goes backwards, and a batch is given the words of the first user again
once it has made up a user: that one is lost with the batch. -/
theorem life_repeated : ∃ steps generator, Life (.new onceOnly keeping backwards 7) steps generator ∧
    steps.length = 3 ∧ (users steps).length = 2 := by
  have different := @Fake.numberedName_ne 1 0 (by decide +kernel)
  have others := Fake.numberedEmail_ne different
  have earlier : Ulid.nil.after? 5 0 = some (.ofParts 5 0) := rfl
  obtain ⟨id, next⟩ : ∃ id, (Ulid.ofParts 5 0).after? 4 0 = some id := ⟨_, rfl⟩
  let start : UserGenerator := .new onceOnly keeping backwards 7
  let middle := start.following 0 (.ofParts 5 0)
  obtain ⟨one, first⟩ := @ends_of_words start 0 (.ofParts 5 0) onceOnly.password rfl nofun nofun
    Nat.one_pos Nat.one_pos earlier rfl []
  obtain ⟨two, second⟩ := @ends_of_words middle 1 id onceOnly.password rfl
    (fun seen => different (List.mem_singleton.mp seen))
    (fun seen => others (List.mem_singleton.mp seen)) Nat.one_pos Nat.one_pos next rfl [3, 0, 0]
  obtain ⟨failure, last, third⟩ := @ends_of_taken (middle.following 1 id) 0
    (List.mem_cons_of_mem _ List.mem_cons_self) rfl
  have batch : (generateBatch 2).Ends _ _ _ _ _ :=
    ends_bind.mpr (.inr ⟨_, _, _, second, ends_bind.mpr (.inl ⟨_, rfl,
      ends_bind.mpr (.inl ⟨_, rfl, third⟩)⟩)⟩)
  have life := (Life.start.generate first).batch 2 batch
  rw [batchSteps_made second, batchSteps_failed third] at life
  exact ⟨_, _, life, rfl, rfl⟩

/-! ## The users of a life -/

/-- What holds for all users of a generator's life. -/
structure Distinct (timestamp : Int) (made : List User) : Prop where
  /-- No two of them have the same user name, -/
  usernames : (made.map (·.username)).Nodup
  /-- nor the same mail address. -/
  emails : (made.map (·.email)).Nodup
  /-- Identifiers grow in the order in which the users were made up, -/
  ids : made.Pairwise fun earlier later => earlier.id.value < later.id.value
  /-- and so do their texts, which are equally long. -/
  texts : made.Pairwise fun earlier later => earlier.id.text < later.id.text
  lengths : ∀ user ∈ made, user.id.text.length = 26
  /-- All have the one time stamp. -/
  stamped : ∀ user ∈ made, user.createdAt = timestamp ∧ user.updatedAt = timestamp

/-- Whatever is asked of a generator, from whatever sources, and whatever fails: its users are
different, as long as each identifier is greater than the one before it. -/
theorem distinct_of_life {config : UserConfig} {hasher : Hasher} {ids : IdSource} {timestamp : Int}
    {steps : List (Except Failure User)} {generator : UserGenerator} (grows : ids.Grows)
    (life : Life (.new config hasher ids timestamp) steps generator) :
    Distinct timestamp (users steps) := by
  have tracks := tracks_of_life grows life
  exact {
    usernames := tracks.usernames.distinct
    emails := tracks.emails.distinct
    ids := tracks.ascending
    texts := tracks.ascending.imp Ulid.text_lt_text
    lengths := fun user _ => user.id.length_text
    stamped := tracks.stamped }

theorem distinct_of_life_repeated : ∃ steps generator,
    Life (.new onceOnly keeping backwards 7) steps generator ∧
      steps.length = 3 ∧ (users steps).length = 2 ∧ Distinct 7 (users steps) := by
  have grows : backwards.Grows :=
    IdSource.grows_of_clock_lt fun calls => Nat.lt_of_le_of_lt (Nat.sub_le 5 calls) (by decide)
  obtain ⟨steps, generator, life, three, two⟩ := life_repeated
  exact ⟨steps, generator, life, three, two, distinct_of_life grows life⟩

end UserGenerator
end Seedbed

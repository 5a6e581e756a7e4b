import Seedbed.Proofs.Random.Outcomes
import Seedbed.Proofs.User.Remains

/-!
# Bounds of users

Making up a user first draws up a sketch of it, and then its badges and the rest (`generate_eq`). A
sketch panics for no words of the source, and neither does the rest if there may be badges at all:
the odds are odds, and the number of badges is drawn below a bound that is not zero. So every user
keeps to the bounds of its settings, and with a greatest number of badges below zero there are no
users, but whatever a sketch fails with comes first (`goes_of_life`).
-/

namespace Seedbed

/-! ## Claims -/

namespace UniqueValues

variable {ρ : Type} {values : UniqueValues} {candidate : Draw ρ String} {holds : String → Prop}

/-- What a claim comes to, if every candidate has some property. -/
structure Finds (values : UniqueValues) (holds : String → Prop)
    (claimed : Except Failure String × UniqueValues) : Prop where
  claims : values.Claims claimed.1 claimed.2
  property : ∀ value, claimed.1 = .ok value → holds value

theorem gives_search (candidates : candidate.Gives holds) (tries : Nat) :
    (values.search candidate tries).Gives (values.Finds holds) := by
  induction tries with
  | zero => exact Draw.gives_pure ⟨.exhausted, nofun⟩
  | succ tries ih =>
    refine candidates.bind fun value has => ?_
    split
    · exact ih
    · rename_i unseen
      refine Draw.gives_pure ⟨.fresh (by simpa using unseen), ?_⟩
      rintro _ ⟨⟩
      exact has

theorem gives_claim (candidates : candidate.Gives holds) :
    (values.claim candidate).Gives (values.Finds holds) := gives_search candidates values.attempts

end UniqueValues

/-! ## What a step brings -/

namespace Generation

variable {ρ : Type} {before after : UserGenerator} {source later : ρ} {step : Generation ρ α}
  {holds : Except Failure α → UserGenerator → Prop}

/-- Whatever the source, a step brings a result and a generator with some property unless a draw
stalls. It never panics. -/
def Brings (step : Generation ρ α) (before : UserGenerator)
    (holds : Except Failure α → UserGenerator → Prop) : Prop :=
  (step.run.run before).Gives fun ended => holds ended.1 ended.2

theorem Brings.of_ends {result : Except Failure α} (brings : step.Brings before holds)
    (ends : step.Ends before source result after later) : holds result after :=
  Draw.Gives.value brings ends

theorem Brings.bind {next : α → Generation ρ β} {last : Except Failure β → UserGenerator → Prop}
    (first : step.Brings before holds)
    (failed : ∀ failure after, holds (.error failure) after → last (.error failure) after)
    (rest : ∀ value middle, holds (.ok value) middle → (next value).Brings middle last) :
    (step >>= next).Brings before last := by
  unfold Brings
  rw [ExceptT.run_bind, StateT.run_bind]
  refine Draw.Gives.bind first fun ended has => ?_
  obtain ⟨result, middle⟩ := ended
  cases result with
  | error failure => exact Draw.gives_pure (failed failure middle has)
  | ok value => exact rest value middle has

theorem brings_pure {value : α} (has : holds (.ok value) before) :
    (pure value : Generation ρ α).Brings before holds := Draw.gives_pure has

theorem brings_settle {result : Except Failure α} (has : holds result before) :
    (UserGenerator.settle result : Generation ρ α).Brings before holds := Draw.gives_pure has

theorem brings_get_bind {next : UserGenerator → Generation ρ α} :
    (get >>= next).Brings before holds ↔ (next before).Brings before holds := Iff.rfl

theorem brings_set_bind {next : PUnit → Generation ρ α} {changed : UserGenerator} :
    (set changed >>= next).Brings before holds ↔ (next ⟨⟩).Brings changed holds := Iff.rfl

theorem brings_modify_bind {next : PUnit → Generation ρ α}
    {change : UserGenerator → UserGenerator} :
    (modify change >>= next).Brings before holds ↔ (next ⟨⟩).Brings (change before) holds :=
  Iff.rfl

theorem brings_draw_bind {what : Draw ρ α} {drawn : α → Prop} {next : α → Generation ρ β}
    {last : Except Failure β → UserGenerator → Prop} (gives : what.Gives drawn)
    (rest : ∀ value, drawn value → (next value).Brings before last) :
    (UserGenerator.draw what >>= next).Brings before last := by
  unfold Brings
  rw [run_draw_bind]
  exact gives.bind rest

theorem run_get_bind {next : UserGenerator → Generation ρ α} :
    (get >>= next).run.run before = (next before).run.run before := rfl

theorem run_draw_bind_of_halted {what : Draw ρ α} {next : α → Generation ρ β} {halt : Halt}
    (halted : what.run source = .error halt) :
    ((UserGenerator.draw what >>= next).run.run before).run source = .error halt := by
  rw [run_draw_bind, StateT.run_bind, halted]
  rfl

end Generation

namespace UserGenerator

open Generation

variable {ρ : Type} {before after : UserGenerator} {source later : ρ} {config : UserConfig}
  {hasher : Hasher} {ids : IdSource} {timestamp : Int} {steps : List (Except Failure User)}

/-! ## Sketches -/

/-- What is made up for a user before its badges are drawn. -/
structure Sketch where
  id : Ulid
  username : String
  email : String
  passwordHash : String
  displayName : String
  /-- What the status text is cut from. -/
  sentence : String
  profileContent : String

/-- Why there is no sketch, if so many passwords were hashed before. -/
inductive Early (config : UserConfig) (hasher : Hasher) (calls : Nat) : Failure → Prop where
  | noUsername : Early config hasher calls (.exhausted "username" config.maxUniqueAttempts)
  | noEmail : Early config hasher calls (.exhausted "email" config.maxUniqueAttempts)
  | noId : Early config hasher calls .idOverflow
  | noHash {failure : Failure} (unhashed : hasher calls config.password = .error failure) :
      Early config hasher calls failure

/-- Whether a generator goes by some settings, a hasher and a time stamp. -/
structure GoesBy (config : UserConfig) (hasher : Hasher) (timestamp : Int)
    (generator : UserGenerator) : Prop where
  configured : generator.config = config
  hashing : generator.hasher = hasher
  stamp : generator.timestamp = timestamp
  equipped : generator.Equipped

theorem goesBy_of_life (life : Life (.new config hasher ids timestamp) steps after) :
    GoesBy config hasher timestamp after := by
  refine life.keeps (fun _ generator => GoesBy config hasher timestamp generator) ?_
    ⟨rfl, rfl, rfl, ⟨rfl, rfl⟩, ⟨rfl, rfl⟩⟩
  intro ρ _ steps before source result after later goesBy generates
  have leaves := leaves_of_generates goesBy.equipped generates
  have equipped := leaves.equipped goesBy.equipped
  cases leaves with
  | noUsername => exact goesBy
  | noEmail named => exact { goesBy with equipped }
  | noId named mailed overflow => exact { goesBy with equipped }
  | noHash named mailed numbered unhashed => exact { goesBy with equipped }
  | made named mailed numbered hashed => exact { goesBy with equipped }

/-- What comes of a sketch, and what a generator goes by after it. -/
inductive Sketched (config : UserConfig) (hasher : Hasher) (timestamp : Int) (calls : Nat) :
    Except Failure Sketch → UserGenerator → Prop where
  | failed {failure : Failure} {after : UserGenerator} (early : Early config hasher calls failure) :
      Sketched config hasher timestamp calls (.error failure) after
  | made {sketched : Sketch} {after : UserGenerator} (named : sketched.username ≠ "")
      (mailed : '@' ∈ sketched.email.toList)
      (hashed : hasher calls config.password = .ok sketched.passwordHash)
      (configured : after.config = config) (stamp : after.timestamp = timestamp) :
      Sketched config hasher timestamp calls (.ok sketched) after

section

variable [RandomSource ρ]

/-- Makes up what comes before the badges. -/
def sketch : Generation ρ Sketch := do
  let username ← claimUsername
  let email ← claimEmail
  let id ← nextId
  let passwordHash ← hashPassword
  let displayName ← draw Fake.fullName
  let sentence ← draw (Fake.sentence 3 12)
  let profileContent ← draw (Fake.paragraph 2 5)
  return { id, username, email, passwordHash, displayName, sentence, profileContent }

/-- Makes a user of a sketch. -/
def finish (sketched : Sketch) : Generation ρ User := do
  let { config, timestamp, .. } ← get
  let badges ← draw (drawBadges config.maxBadges)
  let privileged ← draw (Draw.chance config.privilegedRate)
  let verified ← draw (Draw.chance config.verifiedRate)
  return {
    sketched with
    badges, privileged, verified
    statusText := clip sketched.sentence config.statusTextLimit
    statusPresence := config.statusPresence
    createdAt := timestamp
    updatedAt := timestamp }

theorem generate_eq : (generate : Generation ρ User) = sketch >>= finish := by
  simp only [generate, sketch, finish, bind_assoc, pure_bind]

theorem brings_claimUsername : (claimUsername : Generation ρ String).Brings before
    fun result after => ∃ usernames, before.usernames.Finds (· ≠ "") (result, usernames) ∧
      after = { before with usernames } := by
  rw [claimUsername, brings_get_bind]
  refine brings_draw_bind (UniqueValues.gives_claim Fake.gives_userName) fun claimed finds => ?_
  obtain ⟨result, usernames⟩ := claimed
  rw [brings_modify_bind]
  exact brings_settle ⟨usernames, finds, rfl⟩

theorem brings_claimEmail : (claimEmail : Generation ρ String).Brings before
    fun result after => ∃ emails, before.emails.Finds ('@' ∈ ·.toList) (result, emails) ∧
      after = { before with emails } := by
  rw [claimEmail, brings_get_bind]
  refine brings_draw_bind (UniqueValues.gives_claim Fake.gives_email) fun claimed finds => ?_
  obtain ⟨result, emails⟩ := claimed
  rw [brings_modify_bind]
  exact brings_settle ⟨emails, finds, rfl⟩

omit [RandomSource ρ] in
theorem brings_nextId : (nextId : Generation ρ Ulid).Brings before fun result after =>
    (∀ failure, result = .error failure → failure = .idOverflow) ∧
      ∃ idCalls lastId, after = { before with idCalls, lastId } := by
  rw [nextId, brings_get_bind, brings_set_bind]
  split
  · rw [brings_modify_bind]
    refine brings_pure ⟨fun failure differs => ?_, _, _, rfl⟩
    cases differs
  · refine brings_settle ⟨fun failure same => ?_, _, _, rfl⟩
    cases same
    rfl

omit [RandomSource ρ] in
theorem brings_hashPassword : (hashPassword : Generation ρ String).Brings before
    fun result after =>
      result = before.hashed ∧ ∃ hashCalls, after = { before with hashCalls } := by
  rw [hashPassword, brings_get_bind, brings_set_bind]
  exact brings_settle ⟨rfl, _, rfl⟩

/-- Whatever the source, a sketch is all right, or fails with reason. -/
theorem brings_sketch (goesBy : GoesBy config hasher timestamp before) :
    (sketch : Generation ρ Sketch).Brings before
      (Sketched config hasher timestamp before.hashCalls) := by
  obtain ⟨configured, hashing, stamp, ⟨nameField, nameTries⟩, ⟨mailField, mailTries⟩⟩ := goesBy
  rw [configured] at nameTries mailTries
  refine brings_claimUsername.bind ?_ ?_
  · rintro failure _ ⟨usernames, finds, rfl⟩
    obtain ⟨rfl, -⟩ := finds.claims.eq_of_error
    rw [nameField, nameTries]
    exact .failed .noUsername
  rintro username _ ⟨usernames, found, rfl⟩
  have named := found.property username rfl
  refine brings_claimEmail.bind ?_ ?_
  · rintro failure _ ⟨emails, finds, rfl⟩
    obtain ⟨rfl, -⟩ := finds.claims.eq_of_error
    rw [mailField, mailTries]
    exact .failed .noEmail
  rintro email _ ⟨emails, found, rfl⟩
  have mailed := found.property email rfl
  refine brings_nextId.bind ?_ ?_
  · rintro failure _ ⟨overflow, -⟩
    rw [overflow failure rfl]
    exact .failed .noId
  rintro id _ ⟨-, idCalls, lastId, rfl⟩
  have hashes : before.hashed = hasher before.hashCalls config.password := by
    rw [hashed, hashing, configured]
  refine brings_hashPassword.bind ?_ ?_
  · rintro failure _ ⟨unhashed, -⟩
    exact .failed (.noHash (hashes.symm.trans unhashed.symm))
  rintro passwordHash _ ⟨hashed, hashCalls, rfl⟩
  refine brings_draw_bind Fake.gives_fullName fun displayName _ => ?_
  refine brings_draw_bind (Fake.gives_sentence (by decide)) fun sentence _ => ?_
  refine brings_draw_bind (Fake.gives_paragraph (by decide)) fun profileContent _ => ?_
  exact brings_pure (.made named mailed (hashes.symm.trans hashed.symm) configured stamp)

/-! ## From a sketch to a user -/

/-- Whether a user is as its sketch and its settings have it. -/
structure Sketch.Fits (sketched : Sketch) (config : UserConfig) (timestamp : Int) (user : User) :
    Prop where
  id : user.id = sketched.id
  username : user.username = sketched.username
  email : user.email = sketched.email
  passwordHash : user.passwordHash = sketched.passwordHash
  displayName : user.displayName = sketched.displayName
  profileContent : user.profileContent = sketched.profileContent
  badges : 0 ≤ user.badges ∧ user.badges ≤ config.maxBadges
  /-- The status text is the beginning of the sentence, as long as is allowed. -/
  statusText : user.statusText.toList <+: sketched.sentence.toList
  length : user.statusText.length = min config.statusTextLimit sketched.sentence.length
  statusPresence : user.statusPresence = config.statusPresence
  unset : user.profileBackgroundId? = none ∧ user.suspendedUntil? = none
  stamped : user.createdAt = timestamp ∧ user.updatedAt = timestamp

/-- Whether a rate is one of something happening. -/
structure IsRate (rate : Decimal.Binary64) : Prop where
  positive : rate.negative = false
  atMost : rate.floorShifted 64 ≤ 2 ^ (64 : Nat)

theorem gives_drawBadges {maxBadges : Int} (some : 0 ≤ maxBadges) :
    (drawBadges maxBadges : Draw ρ Int).Gives fun badges => 0 ≤ badges ∧ badges ≤ maxBadges := by
  rw [drawBadges, if_neg (Int.not_lt.mpr some)]
  refine (Draw.gives_below32 (Nat.succ_pos _)).bind fun number below => Draw.gives_pure ?_
  have : (maxBadges.toNat : Int) = maxBadges := Int.toNat_of_nonneg some
  omega

omit [RandomSource ρ] in
theorem prefix_clip (text : String) (limit : Nat) : (clip text limit).toList <+: text.toList := by
  rw [clip, String.toList_ofList]
  exact List.take_prefix limit text.toList

omit [RandomSource ρ] in
theorem length_clip (text : String) (limit : Nat) :
    (clip text limit).length = min limit text.length := by
  rw [clip, String.length_ofList, List.length_take, String.length_toList]

/-- With odds that make sense and a number of badges to draw, a sketch becomes a user. -/
theorem brings_finish (sketched : Sketch) (some : 0 ≤ before.config.maxBadges)
    (privileged : IsRate before.config.privilegedRate)
    (verified : IsRate before.config.verifiedRate) :
    (finish sketched : Generation ρ User).Brings before fun result _ =>
      ∃ user, result = .ok user ∧ sketched.Fits before.config before.timestamp user := by
  rw [finish, brings_get_bind]
  refine brings_draw_bind (gives_drawBadges some) fun badges bounds => ?_
  refine brings_draw_bind (Draw.gives_chance privileged.positive privileged.atMost) fun _ _ => ?_
  refine brings_draw_bind (Draw.gives_chance verified.positive verified.atMost) fun _ _ => ?_
  refine brings_pure ⟨_, rfl, rfl, rfl, rfl, rfl, rfl, rfl, bounds, ?_, ?_, rfl, ⟨rfl, rfl⟩, rfl,
    rfl⟩
  · exact prefix_clip _ _
  · exact length_clip _ _

/-- With no number of badges to draw, it never does. -/
theorem finish_panics (sketched : Sketch) (below : before.config.maxBadges < 0) (source : ρ) :
    ((finish sketched).run.run before).run source = .error .panic := by
  have panics : (drawBadges before.config.maxBadges : Draw ρ Int).run source = .error .panic := by
    rw [drawBadges, if_pos below]
    rfl
  rw [finish, run_get_bind]
  exact run_draw_bind_of_halted panics

theorem fits_of_finish {sketched : Sketch} {result : Except Failure User}
    (privileged : IsRate before.config.privilegedRate)
    (verified : IsRate before.config.verifiedRate)
    (ends : (finish sketched).Ends before source result after later) :
    ∃ user, result = .ok user ∧ sketched.Fits before.config before.timestamp user := by
  by_cases some : 0 ≤ before.config.maxBadges
  · exact (brings_finish sketched some privileged verified).of_ends ends
  · rw [Ends, finish_panics sketched (Int.not_le.mp some)] at ends
    cases ends

/-- After a sketch, it depends on the greatest number of badges whether there is a user. -/
theorem run_generate (source : ρ) :
    (generate.run.run before).run source =
      match (sketch.run.run before).run source with
      | .error halt => .error halt
      | .ok ((.error failure, after), later) => .ok ((.error failure, after), later)
      | .ok ((.ok sketched, middle), between) =>
        ((finish sketched).run.run middle).run between := by
  rw [generate_eq, ExceptT.run_bind, StateT.run_bind, StateT.run_bind]
  cases (sketch.run.run before).run source with
  | error halt => rfl
  | ok ended =>
    obtain ⟨⟨result, middle⟩, between⟩ := ended
    cases result with
    | error failure => rfl
    | ok sketched => rfl

/-! ## Users within bounds -/

/-- How the attempt to make up a user goes, from a generator and a source on. -/
structure Goes (config : UserConfig) (hasher : Hasher) (timestamp : Int) (before : UserGenerator)
    (source : ρ) : Prop where
  /-- With some number of badges to draw it does not panic, -/
  safe : 0 ≤ config.maxBadges → (generate.run.run before).run source ≠ .error .panic
  /-- and it fails for the reasons that there are for that. -/
  failed : ∀ failure after later, generate.Ends before source (.error failure) after later →
    Early config hasher before.hashCalls failure
  /-- A user has a name, a mail address and the hash of the password, and it is made of a sketch as
  its settings have it. -/
  made : ∀ user after later, generate.Ends before source (.ok user) after later →
    user.username ≠ "" ∧ '@' ∈ user.email.toList ∧
      hasher before.hashCalls config.password = .ok user.passwordHash ∧
      ∃ sketched middle between, sketch.Ends before source (.ok sketched) middle between ∧
        sketched.Fits config timestamp user
  /-- With no number of badges to draw there are no users, -/
  none : config.maxBadges < 0 → ∀ user after later,
    ¬ generate.Ends before source (.ok user) after later
  /-- but a panic in place of every user that there is a sketch of; what comes before stays. -/
  panics : config.maxBadges < 0 → (generate.run.run before).run source =
    match (sketch.run.run before).run source with
    | .error _ => .error .stalled
    | .ok ((.error failure, after), later) => .ok ((.error failure, after), later)
    | .ok ((.ok _, _), _) => .error .panic

/-- An attempt that ends has failed before there was a sketch, or finishes one. -/
theorem early_or_finishes (goesBy : GoesBy config hasher timestamp before)
    {result : Except Failure User} (ends : generate.Ends before source result after later) :
    (∃ failure, result = .error failure ∧ Early config hasher before.hashCalls failure) ∨
      ∃ sketched middle between, sketch.Ends before source (.ok sketched) middle between ∧
        (finish sketched).Ends middle between result after later := by
  rw [generate_eq] at ends
  rcases ends_bind.mp ends with ⟨failure, rfl, failed⟩ | made
  · obtain early | - := (brings_sketch (ρ := ρ) goesBy).of_ends failed
    exact .inl ⟨failure, rfl, early⟩
  · exact .inr made

/-- With odds that make sense, every attempt goes that way. -/
theorem goes_of_goesBy (goesBy : GoesBy config hasher timestamp before)
    (privileged : IsRate config.privilegedRate) (verified : IsRate config.verifiedRate)
    (source : ρ) : Goes config hasher timestamp before source := by
  have sketches := brings_sketch (ρ := ρ) goesBy
  refine ⟨?safe, ?failed, ?made, ?none, ?panics⟩
  case safe =>
    intro some panicked
    rw [run_generate] at panicked
    split at panicked
    · rename_i halt ran
      cases Draw.Gives.stalled sketches ran
      cases panicked
    · cases panicked
    · rename_i sketched middle between ran
      obtain - | ⟨-, -, -, rfl, -⟩ := sketches.of_ends ran
      cases Draw.Gives.stalled (brings_finish sketched some privileged verified) panicked
  case failed =>
    intro failure after later ends
    obtain ⟨_, ⟨⟩, early⟩ | ⟨sketched, middle, between, first, last⟩ :=
      early_or_finishes goesBy ends
    · exact early
    · obtain - | ⟨-, -, -, rfl, -⟩ := sketches.of_ends first
      obtain ⟨_, differs, -⟩ := fits_of_finish privileged verified last
      cases differs
  case made =>
    intro user after later ends
    obtain ⟨_, differs, -⟩ | ⟨sketched, middle, between, first, last⟩ :=
      early_or_finishes goesBy ends
    · cases differs
    · obtain - | ⟨named, mailed, hashed, rfl, rfl⟩ := sketches.of_ends first
      obtain ⟨_, ⟨⟩, fits⟩ := fits_of_finish privileged verified last
      rw [fits.username, fits.email, fits.passwordHash]
      exact ⟨named, mailed, hashed, sketched, middle, between, first, fits⟩
  case none =>
    intro below user after later ends
    obtain ⟨_, differs, -⟩ | ⟨sketched, middle, between, first, last⟩ :=
      early_or_finishes goesBy ends
    · cases differs
    · obtain - | ⟨-, -, -, rfl, -⟩ := sketches.of_ends first
      rw [Ends, finish_panics sketched below] at last
      cases last
  case panics =>
    intro below
    rw [run_generate]
    split
    · rename_i halt ran
      rw [Draw.Gives.stalled sketches ran]
    · rfl
    · rename_i sketched middle between ran
      obtain - | ⟨-, -, -, rfl, -⟩ := sketches.of_ends ran
      exact finish_panics sketched below between

/-- At any time of its life, whatever the password and the number of attempts. -/
theorem goes_of_life {settings : SeedSettings} {maxBadges : Int} {statusTextLimit : Nat}
    (life : Life (.new { UserConfig.ofSettings settings with maxBadges, statusTextLimit } hasher ids
      timestamp) steps before) (source : ρ) :
    Goes { UserConfig.ofSettings settings with maxBadges, statusTextLimit } hasher timestamp before
      source := by
  have privileged : IsRate ({} : UserConfig).privilegedRate := ⟨rfl, by decide +kernel⟩
  have verified : IsRate ({} : UserConfig).verifiedRate := ⟨rfl, by decide +kernel⟩
  exact goes_of_goesBy (goesBy_of_life life) privileged verified source

/-- As many badges as there may be at most, and a short status text: a generator has made up a user
from words that are all zero but for the form of its name, and goes on. -/
theorem goes_of_life_short : ∃ user before,
    Life (.new { UserConfig.ofSettings {} with maxBadges := 2147483647, statusTextLimit := 4 }
      keeping backwards 7) [.ok user] before ∧
    user.statusText = "alia" ∧
    ∀ source : Script, Goes { UserConfig.ofSettings {} with
      maxBadges := 2147483647, statusTextLimit := 4 } keeping 7 before source := by
  let start : UserGenerator := .new { UserConfig.ofSettings {} with
    maxBadges := 2147483647, statusTextLimit := 4 } keeping backwards 7
  have numbered : Ulid.nil.after? 5 0 = some (.ofParts 5 0) := rfl
  obtain ⟨user, ends, status⟩ := @ends_of_zeroes start 0 (.ofParts 5 0) "password123" (by decide)
    rfl rfl nofun nofun (by decide) (by decide) numbered rfl []
  have life := Life.start.generate ends
  exact ⟨_, _, life, status, goes_of_life life⟩

end
end UserGenerator
end Seedbed

import Mathlib.Data.List.Forall2
import Seedbed.Proofs.Pool.Twins
import Seedbed.Proofs.User.Reproducible

/-!
# Users with other passwords

Two generators that differ in the password and in the hasher alone, where the hashers fail on the
same calls with the same failure: they make up the same users but for the hashes, and fail alike
(`Kindred.generates`). So two routines for users that differ no more go abreast, and what they send
is the same but for the hashes (`abreast_seed`).
-/

namespace Seedbed

open Program

/-- Errands that are the same but for the hash of a password. -/
inductive TwinErrand : Pairing Errand.Answer where
  | say (line : Log.Line) : TwinErrand (.say line) (.say line) Eq
  | send {statement statement' : Database.Statement} (rehashed : Rehashed statement statement') :
      TwinErrand (.send statement) (.send statement') Eq

/-- Whether two attempts to hash a password come out alike: both succeed, or both fail with the same
failure. -/
inductive HashedAlike : Except Failure String → Except Failure String → Prop where
  | ok (hash hash' : String) : HashedAlike (.ok hash) (.ok hash')
  | error (failure : Failure) : HashedAlike (.error failure) (.error failure)

theorem HashedAlike.symm {first second : Except Failure String}
    (alike : HashedAlike first second) : HashedAlike second first := by
  cases alike with
  | ok hash hash' => exact .ok hash' hash
  | error failure => exact .error failure

/-- Two users that are the same but for the hash, or the same failure. -/
inductive MadeAlike : Except Failure User → Except Failure User → Prop where
  | ok (user : User) (passwordHash : String) :
      MadeAlike (.ok user) (.ok { user with passwordHash })
  | error (failure : Failure) : MadeAlike (.error failure) (.error failure)

namespace UserGenerator

open Generation

/-- Whether two generators differ in the password and in the hasher alone, and hash alike. -/
structure Kindred (first second : UserGenerator) : Prop extends Alike first second where
  ids : second.ids = first.ids
  timestamp : second.timestamp = first.timestamp
  lastId : second.lastId = first.lastId
  idCalls : second.idCalls = first.idCalls
  hashCalls : second.hashCalls = first.hashCalls
  hashes : ∀ calls, HashedAlike (first.hasher calls first.config.password)
    (second.hasher calls second.config.password)

namespace Kindred

variable {first second : UserGenerator}

theorem symm (kindred : Kindred first second) : Kindred second first where
  config := by
    obtain ⟨password, same⟩ := kindred.config
    exact ⟨first.config.password, by rw [same]⟩
  usernames := kindred.usernames.symm
  emails := kindred.emails.symm
  ids := kindred.ids.symm
  timestamp := kindred.timestamp.symm
  lastId := kindred.lastId.symm
  idCalls := kindred.idCalls.symm
  hashCalls := kindred.hashCalls.symm
  hashes calls := (kindred.hashes calls).symm

theorem upcoming (kindred : Kindred first second) : second.upcoming? = first.upcoming? := by
  rw [upcoming?, kindred.lastId, kindred.ids, kindred.idCalls, upcoming?]

theorem hashed (kindred : Kindred first second) : HashedAlike first.hashed second.hashed := by
  rw [UserGenerator.hashed, UserGenerator.hashed, kindred.hashCalls]
  exact kindred.hashes first.hashCalls

variable {ρ : Type} [RandomSource ρ] {source later : ρ} {after : UserGenerator}
  {result : Except Failure User}

/-- Whatever comes of making up a user, the like comes of it with the other generator. -/
theorem generates (kindred : Kindred first second)
    (generates : Generates first source result after later) :
    ∃ result' after', Generates second source result' after' later ∧ MadeAlike result result' ∧
      Kindred after after' := by
  -- Both generators see the same names and numbers, so the second comes to the same case.
  cases generates with
  | noUsername claim =>
    rw [← kindred.usernames] at claim
    exact ⟨_, _, .noUsername claim, .error _, { kindred with usernames := rfl }⟩
  | noEmail named claim =>
    rw [← kindred.usernames] at named
    rw [← kindred.emails] at claim
    exact ⟨_, _, .noEmail named claim, .error _, { kindred with usernames := rfl, emails := rfl }⟩
  | noId named mailed overflow =>
    rw [← kindred.usernames] at named
    rw [← kindred.emails] at mailed
    rw [← kindred.upcoming] at overflow
    exact ⟨_, _, .noId named mailed overflow, .error _,
      { kindred with
        usernames := rfl, emails := rfl, idCalls := congrArg (· + 1) kindred.idCalls }⟩
  | noHash named mailed numbered unhashed =>
    rw [← kindred.usernames] at named
    rw [← kindred.emails] at mailed
    rw [← kindred.upcoming] at numbered
    have alike := kindred.hashed
    rw [unhashed] at alike
    generalize unhashed' : second.hashed = outcome at alike
    cases alike with
    | error failure =>
      exact ⟨_, _, .noHash named mailed numbered unhashed', .error _,
        { kindred with
          usernames := rfl, emails := rfl, idCalls := congrArg (· + 1) kindred.idCalls
          lastId := rfl, hashCalls := congrArg (· + 1) kindred.hashCalls }⟩
  | made named mailed numbered hashed drawn =>
    rw [← kindred.usernames] at named
    rw [← kindred.emails] at mailed
    rw [← kindred.upcoming] at numbered
    rw [← kindred.draws] at drawn
    have alike := kindred.hashed
    rw [hashed] at alike
    generalize hashed' : second.hashed = outcome at alike
    cases alike with
    | ok _ passwordHash =>
      refine ⟨_, _, .made named mailed numbered hashed' drawn, ?_,
        { kindred with
          usernames := rfl, emails := rfl, idCalls := congrArg (· + 1) kindred.idCalls
          lastId := rfl, hashCalls := congrArg (· + 1) kindred.hashCalls }⟩
      rw [kindred.statusPresence, kindred.timestamp]
      exact .ok _ passwordHash

end Kindred
end UserGenerator

namespace UserTable

open UserGenerator

variable {first second : UserGenerator}

theorem abreast_say (line : Log.Line) : Abreast TwinErrand Eq (Work.say line) (Work.say line) :=
  abreast_request (TwinErrand.say line)

theorem abreast_tellProgress (made total : Nat) :
    Abreast TwinErrand Eq (tellProgress made total) (tellProgress made total) := by
  unfold tellProgress
  split
  · exact abreast_say _
  · exact abreast_pure rfl

/-- Two routines go abreast as long as their generators are kindred. -/
theorem abreast_insertRest (kindred : Kindred first second) (total left inserted : Nat)
    (source : SeededStream) :
    Abreast TwinErrand Eq (insertRest total left inserted first source)
      (insertRest total left inserted second source) := by
  induction left generalizing first second inserted source with
  | zero => exact (abreast_say _).bind fun _ _ _ => abreast_pure rfl
  | succ left ih =>
    cases ran : (generate.run.run first).run source with
    | error halt =>
      cases ran' : (generate.run.run second).run source with
      | error halt' =>
        rw [insertRest, ran, insertRest, ran']
        exact .halt
      | ok ended =>
        -- What the second generator makes up the first would have made up too.
        obtain ⟨_, _, generates, -, -⟩ := kindred.symm.generates (generates_of_ends ran')
        have ends := ends_of_generates generates
        rw [Generation.Ends, ran] at ends
        cases ends
    | ok ended =>
      obtain ⟨⟨result, after⟩, later⟩ := ended
      obtain ⟨result', after', generates, alike, onward⟩ := kindred.generates (generates_of_ends ran)
      have ran' := ends_of_generates generates
      cases alike with
      | error failure =>
        rw [insertRest, ran, insertRest, ran']
        exact abreast_pure rfl
      | ok user passwordHash =>
        rw [insertRest_made ran, insertRest_made ran']
        refine .ask (.send (.insert user passwordHash)) ?_
        rintro reply _ rfl
        cases reply with
        | error fault => exact abreast_pure rfl
        | ok affected =>
          rw [goOn, goOn]
          cases addCounts? inserted affected with
          | none => exact .halt
          | some sum =>
            exact (abreast_tellProgress _ _).bind fun _ _ _ => ih onward sum later

end UserTable

/-- Whether two settings are the same but for the connection string and the password. -/
structure Config.Alike (config config' : Config) : Prop where
  production : config'.production = config.production
  seed : config'.seed = { config.seed with password := config'.seed.password }

/-- Whether two routines for users are supplied with the same, but for hashers that hash two passwords
alike. -/
structure UserSupplies.Alike (password password' : String) (supplies supplies' : UserSupplies) :
    Prop where
  ids : supplies'.ids = supplies.ids
  timestamp : supplies'.timestamp = supplies.timestamp
  chance : supplies'.chance = supplies.chance
  hashes : ∀ calls, HashedAlike (supplies.hasher calls password) (supplies'.hasher calls password')

namespace UserTable

/-- Two routines for users that differ in nothing but passwords and hashers go abreast. -/
theorem abreast_seed {config config' : Config} (same : config.Alike config')
    {supplies supplies' : UserSupplies}
    (alike : UserSupplies.Alike config.seed.password config'.seed.password supplies supplies') :
    Abreast TwinErrand Eq (seed supplies config) (seed supplies' config') := by
  have users : config'.seed.users = config.seed.users := by rw [same.seed]
  have attempts : config.seed.maxUniqueAttempts = config'.seed.maxUniqueAttempts := by
    rw [same.seed]
  have sources : source supplies' config'.seed = source supplies config.seed := by
    rw [source, same.seed, alike.chance, source]
  have kindred : UserGenerator.Kindred (generator supplies config.seed)
      (generator supplies' config'.seed) :=
    { alike_generator attempts supplies supplies' with
      ids := alike.ids
      timestamp := alike.timestamp
      lastId := rfl
      idCalls := rfl
      hashCalls := rfl
      hashes := alike.hashes }
  unfold seed
  rw [users, sources]
  exact (abreast_say _).bind fun _ _ _ => abreast_insertRest kindred _ _ _ _

end UserTable
end Seedbed

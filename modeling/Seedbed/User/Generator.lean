import Seedbed.Fake.Basic
import Seedbed.Unique
import Seedbed.User.Basic

/-!
# Making up users

A generator makes up one user after the other. It never gives a user name or a mail address twice,
its identifiers grow, and all its users have one time stamp. What has been claimed for a user that
cannot be finished stays claimed.
-/

namespace Seedbed

/-- A way to turn a password into a text that it can be checked against; it is told how many
passwords were hashed before. -/
abbrev Hasher := (calls : Nat) → (password : String) → Except Failure String

/-- Where a generator's identifiers come from: what the clock shows, and the random bits, for every
identifier that is made. -/
structure IdSource where
  clock : Nat → Nat
  random : Nat → Nat

structure UserGenerator where
  config : UserConfig
  hasher : Hasher
  ids : IdSource
  timestamp : Int
  usernames : UniqueValues
  emails : UniqueValues
  lastId : Ulid := .nil
  /-- How many identifiers were asked for. -/
  idCalls : Nat := 0
  /-- How many passwords were hashed. -/
  hashCalls : Nat := 0

abbrev Generation (ρ : Type) := ExceptT Failure (StateT UserGenerator (Draw ρ))

namespace UserGenerator

def new (config : UserConfig) (hasher : Hasher) (ids : IdSource) (timestamp : Int) :
    UserGenerator where
  config
  hasher
  ids
  timestamp
  usernames := { field := "username", attempts := config.maxUniqueAttempts }
  emails := { field := "email", attempts := config.maxUniqueAttempts }

variable {ρ : Type} [RandomSource ρ]

/-- Draws something; this leaves the generator alone. -/
def draw (what : Draw ρ α) : Generation ρ α := ExceptT.lift (StateT.lift what)

def settle (result : Except Failure α) : Generation ρ α := ExceptT.mk (pure result)

def claimUsername : Generation ρ String := do
  let (claimed, usernames) ← draw ((← get).usernames.claim (Fake.userName : Draw ρ String))
  modify fun generator => { generator with usernames }
  settle claimed

def claimEmail : Generation ρ String := do
  let (claimed, emails) ← draw ((← get).emails.claim (Fake.email : Draw ρ String))
  modify fun generator => { generator with emails }
  settle claimed

def nextId : Generation ρ Ulid := do
  let generator ← get
  let calls := generator.idCalls
  set { generator with idCalls := calls + 1 }
  match generator.lastId.after? (generator.ids.clock calls) (generator.ids.random calls) with
  | some id =>
    modify fun generator => { generator with lastId := id }
    return id
  | none => throw .idOverflow

def hashPassword : Generation ρ String := do
  let generator ← get
  set { generator with hashCalls := generator.hashCalls + 1 }
  settle (generator.hasher generator.hashCalls generator.config.password)

def drawBadges (maxBadges : Int) : Draw ρ Int :=
  if maxBadges < 0 then throw .panic else return (← Draw.below32 (maxBadges.toNat + 1))

def clip (text : String) (limit : Nat) : String := String.ofList (text.toList.take limit)

def generate : Generation ρ User := do
  let username ← claimUsername
  let email ← claimEmail
  let id ← nextId
  let passwordHash ← hashPassword
  let displayName ← draw Fake.fullName
  let sentence ← draw (Fake.sentence 3 12)
  let profileContent ← draw (Fake.paragraph 2 5)
  let { config, timestamp, .. } ← get
  let badges ← draw (drawBadges config.maxBadges)
  let privileged ← draw (Draw.chance config.privilegedRate)
  let verified ← draw (Draw.chance config.verifiedRate)
  return {
    id, username, email, passwordHash, displayName, badges
    statusText := clip sentence config.statusTextLimit
    statusPresence := config.statusPresence
    profileContent, privileged, verified
    createdAt := timestamp
    updatedAt := timestamp }

/-- Makes up some users. The first failure ends it. -/
def generateBatch : (count : Nat) → Generation ρ (List User)
  | 0 => return []
  | count + 1 => do
    let user ← generate
    return user :: (← generateBatch count)

end UserGenerator
end Seedbed

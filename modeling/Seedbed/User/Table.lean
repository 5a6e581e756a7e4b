import Seedbed.Random.SeededStream
import Seedbed.Report
import Seedbed.Routine
import Seedbed.User.Generator
import Seedbed.User.Row

/-!
# The routine for users

Users are made up and inserted one by one, as many as the settings say. The first failure ends the
routine, and nothing more is made up or sent.
-/

namespace Seedbed

/-- What the routine for users takes from outside of its settings. -/
structure UserSupplies where
  hasher : Hasher
  ids : IdSource
  timestamp : Int
  /-- Where made-up values come from if the settings do not say where they start. -/
  chance : SeededStream

def User.insert (user : User) : Work (Except Failure Nat) := Work.send user.insertStatement

namespace UserTable

def progressInterval : Nat := 100

def line (text : String) : Log.Line := { source := .users, text }

def source (supplies : UserSupplies) (settings : SeedSettings) : SeededStream :=
  match settings.rngSeed? with
  | some seed => .ofSeed (UInt64.ofNat seed)
  | none => supplies.chance

def generator (supplies : UserSupplies) (settings : SeedSettings) : UserGenerator :=
  .new (.ofSettings settings) supplies.hasher supplies.ids supplies.timestamp

def tellProgress (made total : Nat) : Work Unit :=
  if made % progressInterval = 0 then
    Work.say (line ("  Seeded " ++ toString made ++ "/" ++ toString total ++ " users"))
  else return

def insertRest (total : Nat) : (left inserted : Nat) → UserGenerator → SeededStream →
    Work (Except Failure Nat)
  | 0, inserted, _, _ => do
    Work.say (line ("Seeded " ++ toString inserted ++ " users"))
    return .ok inserted
  | left + 1, inserted, generator, source =>
    match (UserGenerator.generate.run.run generator).run source with
    | .error _ => .halt
    | .ok ((.error failure, _), _) => return .error failure
    | .ok ((.ok user, generator), source) => do
      match ← user.insert with
      | .error failure => return .error failure
      | .ok rows =>
        match addCounts? inserted rows with
        | none => .halt
        | some inserted =>
          tellProgress (total - left) total
          insertRest total left inserted generator source

def seed (supplies : UserSupplies) (config : Config) : Work (Except Failure Nat) := do
  let total := config.seed.users
  Work.say (line ("Seeding " ++ toString total ++ " users..."))
  insertRest total total 0 (generator supplies config.seed) (source supplies config.seed)

def routine (supplies : UserSupplies) : Routine where
  name := "users"
  seed := seed supplies

end UserTable
end Seedbed

import Seedbed.Unicode.Blank

/-!
# Settings

What a run needs to know: the database's connection string, whether it is a production run, and how
the users are made.
-/

namespace Seedbed

structure SeedSettings where
  users : Nat := 100
  /-- The password of every user. -/
  password : String := "password123"
  maxUniqueAttempts : Nat := 1000
  /-- Where made-up values start; without it they differ from run to run. -/
  rngSeed? : Option Nat := none
  deriving DecidableEq, Repr, Inhabited

structure Config where
  /-- The connection string of the database. -/
  postgres : String
  production : Bool := false
  seed : SeedSettings := {}
  deriving DecidableEq, Repr, Inhabited

inductive Inadmissible where
  | blankDatabase
  | noAttempts
  | emptyPassword
  deriving DecidableEq, Repr

def Inadmissible.message : Inadmissible → String
  | .blankDatabase => "database.postgres must not be empty"
  | .noAttempts => "seed.max_unique_attempts must be at least 1"
  | .emptyPassword => "seed.password must not be empty"

namespace Config

/-- The first reason not to admit settings. -/
def fault? (config : Config) : Option Inadmissible :=
  if Unicode.isBlankText config.postgres then some .blankDatabase
  else if config.seed.maxUniqueAttempts = 0 then some .noAttempts
  else if config.seed.password.isEmpty then some .emptyPassword
  else none

/-- What logs call the kind of run. -/
def label (config : Config) : String := if config.production then "production" else "development"

end Config
end Seedbed

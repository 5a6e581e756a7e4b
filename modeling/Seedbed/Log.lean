/-!
# Logs

A run tells what it does in lines, each of a level and from one of its parts.
-/

namespace Seedbed.Log

inductive Level where
  | error
  | warn
  | info
  deriving DecidableEq, Repr, Inhabited

def Level.name : Level → String
  | .error => "ERROR"
  | .warn => "WARN"
  | .info => "INFO"

inductive Source where
  | commandLine
  | config
  | seeder
  | users
  deriving DecidableEq, Repr, Inhabited

def Source.name : Source → String
  | .commandLine => "seed"
  | .config => "seeder::config"
  | .seeder => "seeder::db::seeder"
  | .users => "seeder::routines::users"

structure Line where
  level : Level := .info
  source : Source
  text : String
  deriving DecidableEq, Repr, Inhabited

def Line.written (line : Line) : String :=
  line.level.name ++ " " ++ line.source.name ++ ": " ++ line.text

end Seedbed.Log

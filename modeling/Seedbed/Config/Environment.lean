import Seedbed.Text.System

/-!
# Environments

A run is set up for one of three environments, and each has a settings file of its own.
-/

namespace Seedbed

/-- Where a run takes place. -/
inductive Environment where
  | dev
  | local
  | production
  deriving DecidableEq, Repr, Inhabited

namespace Environment

/-- The environment of a run that names none. -/
def standard : Environment := .local

def name : Environment → String
  | .dev => "dev"
  | .local => "local"
  | .production => "production"

def all : List Environment := [.dev, .local, .production]

def ofName? (name : String) : Option Environment := all.find? (·.name == name)

theorem ofName?_name (environment : Environment) : ofName? environment.name = some environment := by
  cases environment <;> decide

def fileName (environment : Environment) : String := "chaty." ++ environment.name ++ ".yaml"

/-- A file of a directory. The empty directory is the current one and is not written. -/
def joinPath (directory : SystemText) (file : String) : SystemText :=
  if directory.octets.isEmpty then file
  else if directory.octets.getLast? = some SystemText.slash then directory ++ file
  else directory ++ "/" ++ file

def path (environment : Environment) (directory : SystemText) : SystemText :=
  joinPath directory environment.fileName

end Environment
end Seedbed

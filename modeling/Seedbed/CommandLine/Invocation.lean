import Seedbed.CommandLine.Arguments
import Seedbed.Config.Loading
import Seedbed.Log.Filter
import Seedbed.Seeder
import Seedbed.User.Table

/-!
# Invocations

What the program of the command line does: it reads its arguments, loads the settings, and does a
single run with the routine for users. Its status is zero if the run succeeds.
-/

namespace Seedbed.CommandLine

structure Ending where
  status : Nat := 0
  /-- What it writes apart from its log. -/
  output : String := ""
  /-- What it writes about errors. -/
  errors : String := ""
  deriving DecidableEq, Repr

inductive Breakdown where
  | config (fault : ConfigFault)
  | run (failure : Failure)
  deriving DecidableEq, Repr

namespace Breakdown

def message : Breakdown → String
  | .config fault => fault.message
  | .run failure => failure.message

/-- The messages of what caused a breakdown, the outermost first. -/
def causes : Breakdown → List String
  | .config fault => fault.causes
  | .run failure => failure.causes

/-- A text whose lines but the first are indented. -/
def indented (indent : String) (text : String) : String :=
  ("\n" ++ indent).intercalate (text.splitOn "\n")

/-- The rows of a list of causes. More than one are numbered. -/
def causeRows : List String → List String
  | [] => []
  | [cause] => ["    " ++ indented "    " cause]
  | causes => causes.zipIdx.map fun (cause, number) =>
    "    " ++ toString number ++ ": " ++ indented "       " cause

def account (breakdown : Breakdown) : String :=
  let rows := causeRows breakdown.causes
  "Error: " ++ breakdown.message ++
    (if rows.isEmpty then "" else "\n\nCaused by:\n" ++ "\n".intercalate rows) ++ "\n"

end Breakdown

def say (level : Log.Level) (text : String) : PoolProgram Unit :=
  Program.request (Request.say { level, source := .commandLine, text })

/-- Settings in which the number of users is another, if the command line gives it. -/
def Arguments.override (arguments : Arguments) (config : Config) : Config :=
  match arguments.users? with
  | some users => { config with seed := { config.seed with users } }
  | none => config

def Arguments.settings (arguments : Arguments) (around : Surroundings) :
    Except ConfigFault Config :=
  (Config.load around arguments.environment arguments.directory).map arguments.override

def tellReport (report : Report) : PoolProgram Unit := do
  say .info "Seed completed!"
  report.routines.forM fun (routine, rows) =>
    say .info ("  " ++ routine ++ ": " ++ toString rows)
  say .info ("  Elapsed: " ++ toString report.elapsed ++ " ms")

def carryOut (around : Surroundings) (seeder : Seeder) (arguments : Arguments) :
    PoolProgram (Except Breakdown Unit) := do
  say .info "App data seeder"
  (Config.loadLog around arguments.environment arguments.directory).forM fun line =>
    Program.request (Request.say line)
  match arguments.settings around with
  | .error fault => return .error (.config fault)
  | .ok config =>
    say .info ("Loaded config for environment: " ++ config.label ++ " (" ++
      arguments.environment.name ++ ")")
    match ← seeder.run config with
    | .error failure =>
      say .error ("Seeding failed: " ++ failure.message)
      return .error (.run failure)
    | .ok report =>
      tellReport report
      return .ok ()

def Ending.of : Except Breakdown Unit → Ending
  | .ok () => {}
  | .error breakdown => { status := 1, errors := breakdown.account }

def Stop.ending (held : String → Option SystemText) : Stop → Ending
  | .help => { output := helpText held }
  | .refused refusal => { status := 2, errors := refusal.message }

def seeder (supplies : UserSupplies) : Seeder := ⟨[UserTable.routine supplies]⟩

def invoke (around : Surroundings) (supplies : UserSupplies) (texts : List SystemText) :
    PoolProgram Ending :=
  match Arguments.read around.held texts with
  | .error stop => return stop.ending around.held
  | .ok arguments => return Ending.of (← carryOut around (seeder supplies) arguments)

def filterVariable : String := "RUST_LOG"

def logFilter (around : Surroundings) : Log.Filter := .ofText (around.text? filterVariable)

/-- How an invocation ends that is broken off. -/
def Ending.ofOutcome : Program.Outcome Ending → Ending
  | .done ending => ending
  | .halted => { status := 101 }
  | .blocked => { status := 1 }

end Seedbed.CommandLine

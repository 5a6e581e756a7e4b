import Seedbed.Config.Environment

/-!
# Options

The options of the command line, and the text that explains them.
-/

namespace Seedbed.CommandLine

def programName : String := "seed"

inductive Opt where
  | environment
  | directory
  | users
  deriving DecidableEq, Repr

namespace Opt

def all : List Opt := [.environment, .directory, .users]

def name : Opt → String
  | .environment => "env"
  | .directory => "config-dir"
  | .users => "users"

def placeholder : Opt → String
  | .environment => "ENV"
  | .directory => "CONFIG_DIR"
  | .users => "USERS"

/-- The variable that holds an option's value if it is not given. -/
def variableName? : Opt → Option String
  | .environment => some "ENV"
  | .directory => some "SEED_CONFIG_DIR"
  | .users => none

def usage (option : Opt) : String := "--" ++ option.name ++ " <" ++ option.placeholder ++ ">"

def ofName? (name : String) : Option Opt := all.find? (·.name == name)

theorem ofName?_name (option : Opt) : ofName? option.name = some option := by
  cases option <;> decide

/-- The option with a name that need not be a text. -/
def called? (name : SystemText) : Option Opt := name.text?.bind ofName?

def purpose : Opt → String
  | .environment => "Environment whose \x60chaty.<env>.yaml\x60 is loaded"
  | .directory => "Directory holding the config files"
  | .users => "Overrides \x60seed.users\x60 from the config file"

/-- The value of an option that is neither given nor held by a variable. -/
def default? : Opt → Option String
  | .environment => some Environment.standard.name
  | .directory => some "."
  | .users => none

/-- The values that an option can have, if they can be listed. -/
def values : Opt → List String
  | .environment => Environment.all.map Environment.name
  | _ => []

end Opt

def helpName : String := "help"

def optionNames : List String := Opt.all.map Opt.name ++ [helpName]

def usageLine (options : List String) : String :=
  "Usage: " ++ programName ++ " " ++
    (if options.isEmpty then "[OPTIONS]" else " ".intercalate options)

def possibleValues (values : List String) : String :=
  "[possible values: " ++ ", ".intercalate values ++ "]"

/-- Remarks on an option: what its variable holds, its default, and its possible values. -/
def Opt.remarks (held : String → Option SystemText) (option : Opt) : List String :=
  (option.variableName?.map fun name =>
    "[env: " ++ name ++ "=" ++ (held name).elim "" SystemText.shown ++ "]").toList ++
    (option.default?.map fun value => "[default: " ++ value ++ "]").toList ++
    (if option.values.isEmpty then [] else [possibleValues option.values])

/-- The rows of the list of options: how each is written, and what it is for. -/
def helpRows (held : String → Option SystemText) : List (String × String) :=
  (Opt.all.map fun option =>
    ("    " ++ option.usage, " ".intercalate (option.purpose :: option.remarks held))) ++
    [("-h, --" ++ helpName, "Print help")]

def helpRow (width : Nat) (row : String × String) : String :=
  "  " ++ row.1 ++ String.ofList (List.replicate (width - row.1.length) ' ') ++ "  " ++ row.2

def helpText (held : String → Option SystemText) : String :=
  let rows := helpRows held
  let width := (rows.map (·.1.length)).foldl max 0
  "\n".intercalate
    (["Populate the database with synthetic test data", "", usageLine [], "", "Options:"] ++
      rows.map (helpRow width)) ++ "\n"

end Seedbed.CommandLine

import Seedbed.CommandLine.Opt
import Seedbed.Text.Similarity

/-!
# Refusals

Why a command line is refused, and what is told about it.
-/

namespace Seedbed.CommandLine

/-- Why a text is no count. -/
inductive CountFault where
  | empty
  | noDigit
  | tooLarge
  deriving DecidableEq, Repr

def CountFault.message : CountFault → String
  | .empty => "cannot parse integer from empty string"
  | .noDigit => "invalid digit found in string"
  | .tooLarge => "number too large to fit in target type"

inductive Refusal where
  /-- An argument is not known. It may be like an option; and some options were in use by then. -/
  | unexpected (argument : String) (similar? : Option String) (used : List String)
  /-- The call for help has a value. -/
  | valueOfHelp (value : String) (used : List String)
  | noValue (option : Opt)
  | repeated (option : Opt)
  | badValue (option : Opt) (value : String)
  | badCount (option : Opt) (value : String) (fault : CountFault)
  /-- A value that can only be a text is none. -/
  | noText
  deriving DecidableEq, Repr

namespace Refusal

def hint (kind similar : String) : String :=
  "\n\n  tip: a similar " ++ kind ++ " exists: '" ++ similar ++ "'"

def listing (values : List String) : String :=
  if values.isEmpty then "" else "\n  " ++ possibleValues values

def problem : Refusal → String
  | .unexpected argument similar? _ =>
    "unexpected argument '" ++ argument ++ "' found" ++
      (similar?.elim "" fun name => hint "argument" ("--" ++ name))
  | .valueOfHelp value _ =>
    "unexpected value '" ++ value ++ "' for '--" ++ helpName ++ "' found; no more were expected"
  | .noValue option =>
    "a value is required for '" ++ option.usage ++ "' but none was supplied" ++
      listing option.values
  | .repeated option => "the argument '" ++ option.usage ++ "' cannot be used multiple times"
  | .badValue option value =>
    "invalid value '" ++ value ++ "' for '" ++ option.usage ++ "'" ++ listing option.values ++
      ((Text.mostSimilar? value option.values).elim "" (hint "value"))
  | .badCount option value fault =>
    "invalid value '" ++ value ++ "' for '" ++ option.usage ++ "': " ++ fault.message
  | .noText => "invalid UTF-8 was detected in one or more arguments"

/-- How the program should be called, where the refusal tells it. -/
def usage? : Refusal → Option (List String)
  | .unexpected _ _ used => some used
  | .valueOfHelp _ used => some used
  | .repeated _ | .noText => some []
  | _ => none

def message (refusal : Refusal) : String :=
  "error: " ++ refusal.problem ++ (refusal.usage?.elim "" fun used => "\n\n" ++ usageLine used) ++
    "\n\nFor more information, try '--" ++ helpName ++ "'.\n"

end Refusal
end Seedbed.CommandLine

import Seedbed.Log

/-!
# Log filters

Which lines of a log are wanted. A filter is a list of directives, each of which sets how much is
wanted of the parts whose names start in some way; of those that cover a part the one that says most
of its name counts. Nothing is wanted of a part that none covers.
-/

namespace Seedbed.Log

/-- How much is wanted: nothing, errors alone, or more, up to everything. -/
abbrev Detail := Nat

/-- The names of details, from the least to the greatest. -/
def detailNames : List String := ["off", "error", "warn", "info", "debug", "trace"]

def Detail.all : Detail := 5

/-- How much must be wanted for a line of a level to be wanted. -/
def Level.detail : Level → Detail
  | .error => 1
  | .warn => 2
  | .info => 3

/-- The detail with a name, in large or small letters, or with a number. -/
def detail? (text : String) : Option Detail :=
  (detailNames.idxOf? text.toLower).or
    ((List.range detailNames.length).find? fun detail => toString detail == text)

/-- How much is wanted of the parts whose names start with some text. -/
structure Directive where
  start : String := ""
  detail : Detail
  deriving DecidableEq, Repr

/-- The directive that is written as some text: a detail, the start of a name, or both. -/
def Directive.ofText? (text : String) : Option Directive :=
  match text.splitOn "=" with
  | [text] =>
    match detail? text with
    | some detail => some { detail }
    | none => some { start := text, detail := .all }
  | [start, text] => (detail? text).map fun detail => { start, detail }
  | _ => none

structure Filter where
  directives : List Directive
  deriving DecidableEq, Repr

namespace Filter

def uniform (detail : Detail) : Filter := ⟨[{ detail }]⟩

/-- The filter of a run that asks for none. -/
def standard : Filter := uniform Level.info.detail

/-- The filter of a run that asks for one without a directive. -/
def bare : Filter := uniform Level.error.detail

/-- The filter that is written as some text, with commas between its directives. Without a text, or
if a directive cannot be read, it is the standard one. -/
def ofText (text? : Option String) : Filter :=
  match text? with
  | none => standard
  | some text =>
    match ((text.splitOn ",").filter (· != "")).mapM Directive.ofText? with
    | none => standard
    | some [] => bare
    | some directives => ⟨directives⟩

/-- The better of two directives for a part: the one that says more of its name, else the later. -/
def better (source : Source) (best? : Option Directive) (directive : Directive) :
    Option Directive :=
  if directive.start.toList.isPrefixOf source.name.toList &&
      best?.all fun best => best.start.length ≤ directive.start.length then
    some directive
  else best?

def listens (filter : Filter) (level : Level) (source : Source) : Bool :=
  (filter.directives.foldl (better source) none).any fun best => level.detail ≤ best.detail

end Filter
end Seedbed.Log

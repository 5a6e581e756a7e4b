import Seedbed.CommandLine.Refusal
import Seedbed.Report
import Seedbed.Text.Words

/-!
# Arguments

How the arguments of the command line are read. An option's value follows it, or stands after a sign
of equality; the value that follows is looked at only when the next option comes, or at the end. An
option that is not given takes its value from its variable, and else its default. Only the directory
need not be a text.
-/

namespace Seedbed.CommandLine

/-- Why a command line starts no run. -/
inductive Stop where
  | help
  | refused (refusal : Refusal)
  deriving DecidableEq, Repr

structure Arguments where
  environment : Environment := .standard
  directory : SystemText := "."
  /-- How many users to insert, if not as many as the settings say. -/
  users? : Option Nat := none
  deriving DecidableEq, Repr

/-! ## Values -/

/-- The count that digits make after a number. -/
def countAfter (number : Nat) : List Char → Except CountFault Nat
  | [] => .ok number
  | c :: rest =>
    match Text.digitValue? 10 c with
    | none => .error .noDigit
    | some digit =>
      if number * 10 + digit < countLimit then countAfter (number * 10 + digit) rest
      else .error .tooLarge

/-- The count that is written as some text; a plus may stand in front of its digits. -/
def readCount (text : String) : Except CountFault Nat :=
  match text.toList with
  | [] => .error .empty
  | '+' :: c :: rest => countAfter 0 (c :: rest)
  | digits => countAfter 0 digits

def Arguments.set (arguments : Arguments) (option : Opt) (value : SystemText) :
    Except Refusal Arguments :=
  match option with
  | .environment =>
    if value.octets.isEmpty then .error (.noValue option)
    else
      match value.text?.bind Environment.ofName? with
      | some environment => .ok { arguments with environment }
      | none => .error (.badValue option value.shown)
  | .directory =>
    if value.octets.isEmpty then .error (.noValue option)
    else .ok { arguments with directory := value }
  | .users =>
    match value.text? with
    | none => .error .noText
    | some text =>
      match readCount text with
      | .ok users => .ok { arguments with users? := some users }
      | .error fault => .error (.badCount option text fault)

/-! ## Options -/

structure Reading where
  arguments : Arguments := {}
  given : List Opt := []

namespace Reading

/-- Takes an option with its value, if it has one. What was read is told also of a refused option,
as it counts as given. -/
def take (reading : Reading) (option : Opt) (value? : Option SystemText) :
    Reading × Option Refusal :=
  match value? with
  | none => (reading, some (.noValue option))
  | some value =>
    if option ∈ reading.given then
      ({ reading with given := reading.given.erase option }, some (.repeated option))
    else
      let given := reading.given ++ [option]
      match reading.arguments.set option value with
      | .ok arguments => ({ arguments, given }, none)
      | .error refusal => ({ reading with given }, some refusal)

/-- An option that is not yet taken, and its value, if that has been met. -/
abbrev Pending := Option (Opt × Option SystemText)

def settle (reading : Reading) : Pending → Reading × Option Refusal
  | none => (reading, none)
  | some (option, value?) => reading.take option value?

/-- Goes on if nothing was refused. -/
def orStop (settled : Reading × Option Refusal) : Except Stop Reading :=
  match settled with
  | (reading, none) => .ok reading
  | (_, some refusal) => .error (.refused refusal)

def used (reading : Reading) : List String := reading.given.map Opt.usage

def unknown (reading : Reading) (name : String) : Refusal :=
  match Text.mostSimilar? name optionNames with
  | none => .unexpected ("--" ++ name) none reading.used
  | some similar =>
    let meant := ((Opt.ofName? similar).map Opt.usage).getD ("--" ++ similar)
    .unexpected ("--" ++ name) (some similar)
      (if meant ∈ reading.used then reading.used else reading.used ++ [meant])

end Reading

/-- The name in a long option, and the value after its sign of equality. -/
def splitLong (octets : List UInt8) : SystemText × Option SystemText :=
  (⟨octets.takeWhile (· != SystemText.equals)⟩,
    match octets.dropWhile (· != SystemText.equals) with
    | [] => none
    | _ :: value => some ⟨value⟩)

inductive Form where
  /-- The mark after which there are no options. -/
  | mark
  | long (name : SystemText) (value? : Option SystemText)
  | short (letters : SystemText)
  | plain (text : SystemText)
  deriving DecidableEq, Repr

open SystemText in
def Form.of (text : SystemText) : Form :=
  match text.octets with
  | [dash, dash] => .mark
  | dash :: dash :: rest => .long (splitLong rest).1 (splitLong rest).2
  | dash :: first :: rest => .short ⟨first :: rest⟩
  | _ => .plain text

def readAll (reading : Reading) (pending : Reading.Pending) :
    List SystemText → Except Stop Reading
  | [] => Reading.orStop (reading.settle pending)
  | text :: rest =>
    match Form.of text with
    | .mark =>
      match rest with
      | [] => Reading.orStop (reading.settle pending)
      | text :: _ => .error (.refused (.unexpected text.shown none []))
    | .long name value? =>
      if name = (helpName : SystemText) then
        match value? with
        | some value => .error (.refused (.valueOfHelp value.shown reading.used))
        | none => Reading.orStop (reading.settle pending) >>= fun _ => .error .help
      else
        match Opt.called? name with
        | none => .error (.refused ((reading.settle pending).1.unknown name.shown))
        | some option => do
          let reading ← Reading.orStop (reading.settle pending)
          match value? with
          | some value => readAll (← Reading.orStop (reading.take option (some value))) none rest
          | none => readAll reading (some (option, none)) rest
    | .short letters =>
      match letters.letter? with
      | some 'h' => Reading.orStop (reading.settle pending) >>= fun _ => .error .help
      | some letter => .error (.refused (.unexpected ("-" ++ letter.toString) none []))
      | none => .error (.refused (.unexpected ("-" ++ letters.shown) none []))
    | .plain text =>
      match pending with
      | some (option, none) => readAll reading (some (option, some text)) rest
      | _ => .error (.refused (.unexpected text.shown none []))

/-- Takes the value of an option from its variable if it was not given. -/
def fill (held : String → Option SystemText) (reading : Reading) (option : Opt) :
    Except Stop Reading :=
  if option ∈ reading.given then .ok reading
  else
    match option.variableName?.bind held with
    | none => .ok reading
    | some value => Reading.orStop (reading.take option (some value))

def Arguments.read (held : String → Option SystemText) (texts : List SystemText) :
    Except Stop Arguments := do
  let reading ← readAll {} none texts
  return (← Opt.all.foldlM (fill held) reading).arguments

end Seedbed.CommandLine

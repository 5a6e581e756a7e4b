import Seedbed.Config.Document
import Seedbed.Config.Environment
import Seedbed.Config.Files
import Seedbed.Log

/-!
# Loading settings

Settings are read from the file of an environment. A connection string among the environment
variables takes the place of the one in the file, before the settings are checked.
-/

namespace Seedbed

inductive ConfigFault where
  | invalidEnvironment (name : String)
  | notFound (path : SystemText)
  | unreadable (text : String)
  | document (fault : Yaml.DecodeFault)
  | invalid (reason : String)
  deriving DecidableEq, Repr

namespace ConfigFault

def message : ConfigFault → String
  | .invalidEnvironment name =>
    "Invalid environment: " ++ name ++ ". Must be one of: dev, local, production"
  | .notFound path => "Config file not found: " ++ path.shown
  | .unreadable text => "IO error: " ++ text
  | .document fault => "YAML error: " ++ fault.message
  | .invalid reason => "Invalid configuration: " ++ reason

def causes : ConfigFault → List String
  | .unreadable text => [text]
  | .document fault => [fault.message]
  | _ => []

def isDirectory : ConfigFault := .unreadable "Is a directory (os error 21)"

def noText : ConfigFault := .unreadable "stream did not contain valid UTF-8"

end ConfigFault

/-- What a run finds around it. -/
structure Surroundings where
  look : SystemText → Option FileEntry := fun _ => none
  exported : List (String × SystemText) := []

def Surroundings.held (around : Surroundings) (name : String) : Option SystemText :=
  around.exported.lookup name

/-- What an environment variable is set to, if that is a text. -/
def Surroundings.text? (around : Surroundings) (name : String) : Option String :=
  (around.held name).bind SystemText.text?

namespace Config

def environment (name : String) : Except ConfigFault Environment :=
  (Environment.ofName? name).elim (.error (.invalidEnvironment name)) .ok

def admitted (config : Config) : Except ConfigFault Config :=
  match config.fault? with
  | some reason => .error (.invalid reason.message)
  | none => .ok config

def fileText (look : SystemText → Option FileEntry) (path : SystemText) :
    Except ConfigFault String :=
  match look path with
  | none => .error (.notFound path)
  | some .directory => .error .isDirectory
  | some (.file bytes) => (String.fromUTF8? bytes).elim (.error .noText) .ok

def ofFile (look : SystemText → Option FileEntry) (path : SystemText) :
    Except ConfigFault Config := do
  (ofText (← fileText look path)).mapError .document

/-- The variable whose connection string takes the place of the one in the file. -/
def databaseVariable : String := "DATABASE_URL"

/-- Settings with another connection string, if there is one. -/
def override (config : Config) : Option String → Config
  | some postgres => { config with postgres }
  | none => config

def load (around : Surroundings) (environment : Environment) (directory : SystemText) :
    Except ConfigFault Config := do
  let config ← ofFile around.look (environment.path directory)
  (config.override (around.text? databaseVariable)).admitted

/-- What is logged while settings are loaded: that the connection string of the file is not used. -/
def loadLog (around : Surroundings) (environment : Environment) (directory : SystemText) :
    List Log.Line :=
  match ofFile around.look (environment.path directory), around.text? databaseVariable with
  | .ok _, some _ =>
    [{ source := .config, text := "Using " ++ databaseVariable ++ " from the environment" }]
  | _, _ => []

end Config
end Seedbed

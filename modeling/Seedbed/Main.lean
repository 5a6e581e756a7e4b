import Seedbed.CommandLine.Invocation
import Seedbed.Password.Basic
import Seedbed.Random.Script
import Std.Time.DateTime.Timestamp

/-!
# The program

The outer layer of the command line: it looks up the environment variables and the settings file,
runs the program on them, and writes down what comes of it. There is no line to a server here, so
every call for a connection ends in a fault.
-/

namespace Seedbed.CommandLine

def variableNames : List String :=
  Opt.all.filterMap Opt.variableName? ++ [Config.databaseVariable, filterVariable]

def lookUpVariables : IO (List (String × SystemText)) :=
  variableNames.filterMapM fun name => do
    return (← IO.getEnv name).map fun value => (name, SystemText.ofText value)

def lookUpEntry (path : String) : IO (Option FileEntry) := do
  try return some (.file (← IO.FS.readBinFile path))
  catch
    | .noFileOrDirectory .. => return none
    | .inappropriateType _ code _ => return if code = 21 then some .directory else none
    | error => throw error

def lookUp (texts : List SystemText) : IO Surroundings := do
  let around : Surroundings := { exported := ← lookUpVariables }
  match Arguments.read around.held texts with
  | .error _ => return around
  | .ok arguments =>
    let path := arguments.environment.path arguments.directory
    let found? ← lookUpEntry path.shown
    return { around with look := fun asked => if asked = path then found? else none }

/-- A random number for each number. -/
def noise (seed index : Nat) : Nat := (Script.mixed (UInt64.ofNat (seed + index))).toNat

def noisySalt (seed index : Nat) : List UInt8 :=
  Password.octets (noise seed (2 * index) * countLimit + noise seed (2 * index + 1))
    Password.saltSize

/-- What the routine for users is supplied with, from a random number and the time. -/
def suppliesFrom (seed now : Nat) : UserSupplies where
  hasher := Password.hasher (noisySalt seed)
  ids := { clock := fun _ => now, random := fun call => noise seed call * countLimit + call }
  timestamp := now
  chance := .ofSeed (UInt64.ofNat seed)

def lookUpSupplies : IO UserSupplies := do
  let random ← IO.getRandomBytes 8
  let now ← Std.Time.Timestamp.now
  return suppliesFrom (random.toList.foldl (fun seed octet => seed * 256 + octet.toNat) 0)
    now.toMillisecondsSinceUnixEpoch.val.toNat

end Seedbed.CommandLine

def main (texts : List String) : IO UInt32 := do
  let texts := texts.map Seedbed.SystemText.ofText
  let around ← Seedbed.CommandLine.lookUp texts
  let supplies ← Seedbed.CommandLine.lookUpSupplies
  let world : Seedbed.World :=
    { server := { behaviour := .absent }
      listens := (Seedbed.CommandLine.logFilter around).listens }
  let (outcome, world) := world.run (Seedbed.CommandLine.invoke around supplies texts)
  let ending := Seedbed.CommandLine.Ending.ofOutcome outcome
  for line in world.log.reverse do
    IO.println line.written
  IO.print ending.output
  IO.eprint ending.errors
  return UInt32.ofNat ending.status

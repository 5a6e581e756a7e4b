import Seedbed.Pool.Manager
import Seedbed.Report
import Seedbed.Routine

/-!
# Runs

A run makes a pool, borrows one connection of it, and calls its routines in order, all of them over
that connection and in one transaction. The first routine that fails ends the transaction with a
rollback; if none fails there is a commit. The connection is given back and the pool is shut down in
every case.
-/

namespace Seedbed

/-- Someone who calls routines, in the order in which they are listed. -/
structure Seeder where
  routines : List Routine

namespace Seeder

def minConnections : Nat := 1

def maxConnections : Nat := 10

/-- What the last step of a run is called in a failure. -/
def commitStep : String := "commit"

def routineNames (seeder : Seeder) : List String := seeder.routines.map (·.name)

def say (level : Log.Level) (text : String) : PoolProgram Unit :=
  Program.request (Request.say { level, source := .seeder, text })

/-- Sends a statement that affects no rows. -/
def mark (connection : ConnectionId) (statement : Database.Statement) :
    PoolProgram (Except Database.Fault Nat) :=
  Program.request (Request.send connection statement)

def through (connection : ConnectionId) : Work α → PoolProgram α :=
  Program.redirect fun
    | .send statement => Program.request (Request.send connection statement)
    | .say line => Program.request (Request.say line)

/-- Calls routines one after the other, up to the first that fails. A failure is told with the name
of its routine. -/
def callAll (connection : ConnectionId) (config : Config) :
    List Routine → PoolProgram (Except (String × Failure) (List (String × Nat)))
  | [] => return .ok []
  | routine :: rest => do
    match ← through connection (routine.seed config) with
    | .error failure => return .error (routine.name, failure)
    | .ok rows =>
      match ← callAll connection config rest with
      | .error failed => return .error failed
      | .ok counts => return .ok ((routine.name, rows) :: counts)

def tellRollback : (reply : Except Database.Fault Nat) → PoolProgram Unit
  | .error fault => say .warn ("Rollback failed: " ++ fault.message)
  | .ok _ => return

def rollBack (connection : ConnectionId) (routine : String) (failure : Failure) :
    PoolProgram Failure := do
  say .warn ("Seed routine \x60" ++ routine ++ "\x60 failed, rolling back: " ++ failure.message)
  tellRollback (← mark connection .rollback)
  return .routineFailed routine failure

def inTransaction (seeder : Seeder) (connection : ConnectionId) (config : Config) :
    PoolProgram (Except Failure (List (String × Nat))) := do
  match ← mark connection .begin with
  | .error fault => return .error (.database fault)
  | .ok _ =>
    match ← callAll connection config seeder.routines with
    | .error (routine, failure) => return .error (← rollBack connection routine failure)
    | .ok counts =>
      match ← mark connection .commit with
      | .error fault =>
        say .warn ("Commit failed, transaction rolled back: " ++ fault.message)
        return .error (.routineFailed commitStep (.database fault))
      | .ok _ => return .ok counts

/-- Calls all routines over a connection that is borrowed for it. -/
def withConnection (seeder : Seeder) (config : Config) :
    PoolProgram (Except Failure (List (String × Nat))) := do
  match ← PoolManager.acquire with
  | .error failure => return .error failure
  | .ok connection =>
    let outcome ← seeder.inTransaction connection config
    PoolManager.release connection
    return outcome

/-- Tells what a run has done, if anyone listens. The number of all rows is found out for that
alone, and a number that is no count puts an end to the run. -/
def announce (report : Report) : PoolProgram Unit := do
  let listens : Bool ← Program.request (Request.listens .info .seeder)
  if listens then
    match report.totalRows? with
    | none => .halt
    | some total =>
      say .info ("Database seeding completed: " ++ toString total ++ " rows in " ++
        toString report.elapsed ++ " ms")

def run (seeder : Seeder) (config : Config) : PoolProgram (Except Failure Report) := do
  match ConnectionParams.parse config.postgres with
  | .error fault => return .error (.invalidDsn fault)
  | .ok params =>
    match ← PoolManager.establish minConnections maxConnections params with
    | .error failure => return .error failure
    | .ok () =>
      say .info ("Connected to " ++ params.host ++ ":" ++ toString params.port ++ "/" ++
        params.database)
      let outcome ← seeder.withConnection config
      PoolManager.shutdown
      match outcome with
      | .error failure => return .error failure
      | .ok routines =>
        let elapsed : Nat ← Program.request Request.elapsed
        let report : Report := { routines, elapsed }
        announce report
        return .ok report

end Seeder
end Seedbed

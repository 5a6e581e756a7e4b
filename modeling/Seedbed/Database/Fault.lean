/-!
# Faults of a database

What can go wrong between a client and a database: the server refuses a statement or a connection,
the line to it fails, or the client finds its own pool unusable.
-/

namespace Seedbed.Database

inductive Fault where
  | refused (message : String)
  /-- The line to the server failed. -/
  | line (message : String)
  | rowNotFound
  | poolTimedOut
  | poolClosed
  | workerCrashed
  | protocol (text : String)
  deriving DecidableEq, Repr, Inhabited

namespace Fault

def message : Fault → String
  | .refused message => "error returned from database: " ++ message
  | .line message => "error communicating with database: " ++ message
  | .rowNotFound => "no rows returned by a query that expected to return at least one row"
  | .poolTimedOut => "pool timed out while waiting for an open connection"
  | .poolClosed => "attempted to acquire a connection on a closed pool"
  | .workerCrashed => "attempted to communicate with a crashed background worker"
  | .protocol text => "encountered unexpected or invalid data: " ++ text

def causes : Fault → List String
  | .refused message => [message]
  | .line message => [message]
  | _ => []

/-- The fault of a line on which nobody answers the call. -/
def connectionRefused : Fault := .line "Connection refused (os error 111)"

/-- Whether a fault may pass if the client waits and tries again. -/
def isPassing (fault : Fault) : Bool := fault == connectionRefused

def unreachable : Fault := .line "Network is unreachable (os error 101)"

/-- The fault of a line that the server has closed. -/
def hungUp : Fault := .line "expected to read 5 bytes, got 0 bytes at EOF"

end Fault
end Seedbed.Database

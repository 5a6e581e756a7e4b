import Seedbed.Database.Fault
import Seedbed.Url.Fault

/-!
# Failures of a run

Why a run fails. A failure has one wording, and a chain of causes, the outermost first.
-/

namespace Seedbed

inductive Failure where
  | invalidDsn (fault : Url.Fault)
  | invalidPoolBounds (min max : Nat)
  | notInitialized
  | alreadyInitialized
  /-- No candidate for a unique value was new. -/
  | exhausted (field : String) (attempts : Nat)
  | passwordHash (text : String)
  /-- The identifiers of one millisecond are used up. -/
  | idOverflow
  /-- A routine failed, or the commit after the last of them. -/
  | routineFailed (routine : String) (source : Failure)
  | database (fault : Database.Fault)
  deriving DecidableEq, Repr, Inhabited

namespace Failure

def idOverflowText : String := "Ulid random bits would overflow"

def message : Failure → String
  | .invalidDsn fault => "Invalid connection string: " ++ fault.message
  | .invalidPoolBounds min max =>
    "Invalid pool bounds: min " ++ toString min ++ ", max " ++ toString max ++
      " (need 1 <= min <= max)"
  | .notInitialized => "Connection pool is not initialized"
  | .alreadyInitialized => "Connection pool is already initialized"
  | .exhausted field attempts =>
    "Could not generate a unique " ++ field ++ " after " ++ toString attempts ++ " attempts"
  | .passwordHash text => "Failed to hash password: " ++ text
  | .idOverflow => "Failed to generate id: " ++ idOverflowText
  | .routineFailed routine source =>
    "Seed routine \x60" ++ routine ++ "\x60 failed, transaction rolled back: " ++ source.message
  | .database fault => "Database error: " ++ fault.message

/-- The messages of what caused a failure, the outermost first. -/
def causes : Failure → List String
  | .invalidDsn fault => [fault.message]
  | .idOverflow => [idOverflowText]
  | .routineFailed _ source => source.message :: source.causes
  | .database fault => fault.message :: fault.causes
  | _ => []

end Failure
end Seedbed

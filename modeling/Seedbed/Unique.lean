import Seedbed.Failure

/-!
# Unique values

A set of values that have been claimed for one field. A claim tries candidates until one is new, and
gives up after a fixed number of them.
-/

namespace Seedbed

/-- Values that have been claimed for a field. -/
structure UniqueValues where
  field : String
  /-- How many candidates one claim may try. -/
  attempts : Nat
  /-- The claimed values, the latest first. -/
  taken : List String := []
  deriving DecidableEq, Repr, Inhabited

namespace UniqueValues

def size (values : UniqueValues) : Nat := values.taken.length

def isEmpty (values : UniqueValues) : Bool := values.taken.isEmpty

def insert (values : UniqueValues) (value : String) : UniqueValues :=
  { values with taken := value :: values.taken }

/-- Tries some candidates: the first new one, and the values with it, or the failure to find any. -/
def search [Monad m] (values : UniqueValues) (candidate : m String) :
    (tries : Nat) → m (Except Failure String × UniqueValues)
  | 0 => pure (.error (.exhausted values.field values.attempts), values)
  | tries + 1 => do
    let value ← candidate
    if values.taken.contains value then search values candidate tries
    else pure (.ok value, values.insert value)

def claim [Monad m] (values : UniqueValues) (candidate : m String) :
    m (Except Failure String × UniqueValues) :=
  values.search candidate values.attempts

end UniqueValues
end Seedbed

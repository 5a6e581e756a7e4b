import Seedbed.Power

/-!
# Reports

What a run has done: how many rows each routine inserted. Counts are words of 64 bits, so a sum that
does not fit is no count.
-/

namespace Seedbed

/-- One more than the greatest count. -/
def countLimit : Nat := 2 ^ (64 : Nat)

def addCounts? (a b : Nat) : Option Nat := if a + b < countLimit then some (a + b) else none

theorem addCounts?_eq_some_iff {a b sum : Nat} :
    addCounts? a b = some sum ↔ a + b = sum ∧ sum < countLimit := by
  unfold addCounts?
  split
  · rename_i small
    constructor
    · intro same
      cases same
      exact ⟨rfl, small⟩
    · rintro ⟨rfl, _⟩
      rfl
  · rename_i large
    constructor
    · intro same
      cases same
    · rintro ⟨rfl, small⟩
      exact absurd small large

structure Report where
  /-- How many rows each routine inserted, in order. -/
  routines : List (String × Nat)
  /-- How many milliseconds the run took. -/
  elapsed : Nat := 0
  deriving DecidableEq, Repr, Inhabited

def Report.totalRows? (report : Report) : Option Nat :=
  report.routines.foldlM (fun total routine => addCounts? total routine.2) 0

end Seedbed

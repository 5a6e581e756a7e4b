import Mathlib.Control.Monad.Basic
import Seedbed.Proofs.Seeder.AllOrNothing
import Seedbed.Proofs.Seeder.Course

/-!
# Dispatch

Which routines a run calls, and whom it names when something fails. A run that nobody disturbs
takes one of the courses that are listed, so each failure is told as it came up, or with the name of
the routine that it came from. After a commit that succeeds there is a report, unless the numbers of
rows add up to no count and someone wants to know their sum.
-/

namespace Seedbed

open Program Database

/-- A routine that tells a number of rows, and does nothing for it. -/
def Routine.telling (name : String) (rows : Nat) : Routine where
  name
  seed := fun _ => return .ok rows

/-- A routine that fails. -/
def Routine.failing (name : String) (failure : Failure) : Routine where
  name
  seed := fun _ => return .error failure

namespace Seeder

section

variable {seeder : Seeder} {config : Config} {history : List Request.Done}

/-- How a run dispatches its routines. -/
structure Dispatched (seeder : Seeder) (config : Config) (outcome : Outcome (Except Failure Report))
    (history : List Request.Done) : Prop where
  /-- It takes one of the courses. -/
  course : Course seeder config outcome history
  /-- If it comes to a sudden end, then a routine did, or all have succeeded and their numbers of
  rows add up to no count. -/
  sudden : outcome = .halted →
    (∃ errands, Calls config seeder.routines .halted errands) ∨
      ∃ (errands : List Errand.Done) (report : Report),
        Calls config seeder.routines (.done (.ok report.routines)) errands ∧
          report.totalRows? = none

theorem Transacts.calls_of_halted {connection : ConnectionId} {routines : List Routine}
    (transacts : Transacts connection config routines .halted history) :
    ∃ errands, Calls config routines .halted errands := by
  cases transacts with
  | broken calls => exact ⟨_, calls⟩

theorem Transacts.calls_of_ok {connection : ConnectionId} {routines : List Routine}
    {counts : List (String × Nat)}
    (transacts : Transacts connection config routines (.done (.ok counts)) history) :
    ∃ errands, Calls config routines (.done (.ok counts)) errands := by
  cases transacts with
  | committed calls => exact ⟨_, calls⟩

theorem Course.dispatched {outcome : Outcome (Except Failure Report)}
    (course : Course seeder config outcome history) : Dispatched seeder config outcome history where
  course := course
  sudden := by
    rintro rfl
    cases course with
    | made parsed establishes borrows finishes =>
      cases finishes with
      | broken =>
        cases borrows with
        | broken transacts => exact .inl transacts.calls_of_halted
      | overflown retires tooMany =>
        cases borrows with
        | lent transacts =>
          obtain ⟨errands, calls⟩ := transacts.calls_of_ok
          exact .inr ⟨errands, { routines := _ }, calls, tooMany⟩

/-- What a run does that nobody disturbs. -/
theorem dispatched_run (seeder : Seeder) (config : Config) (world : World) (vacant : world.Vacant) :
    Dispatched seeder config (world.run (seeder.run config)).1 (seeder.history config world) :=
  Course.dispatched (meets_course seeder config vacant).1

end

/-- Three routines, of which the second one fails. -/
def failingSecond : Seeder :=
  ⟨[.telling "first" 2, .failing "second" .idOverflow, .telling "third" 1]⟩

theorem dispatched_run_failingSecond :
    World.Vacant .obliging ∧
      (World.obliging.run (failingSecond.run { postgres := "pg://h/d" })).1 =
        .done (.error (.routineFailed "second" .idOverflow)) ∧
      Dispatched failingSecond { postgres := "pg://h/d" }
        (World.obliging.run (failingSecond.run { postgres := "pg://h/d" })).1
        (failingSecond.history { postgres := "pg://h/d" } .obliging) := by
  have vacant : World.Vacant .obliging := ⟨rfl, rfl⟩
  exact ⟨vacant, by decide +kernel, dispatched_run _ _ _ vacant⟩

/-- A run comes to a sudden end although its commit was carried out, because the numbers of its rows
add up to no count. -/
theorem halted_after_commit :
    (World.obliging.run (run ⟨[.telling "a" (2 ^ (63 : Nat)), .telling "b" (2 ^ (63 : Nat))]⟩
        { postgres := "pg://h/d" })).1 = .halted ∧
      ⟨1, .commit, false⟩ ∈ (World.obliging.run (run ⟨[.telling "a" (2 ^ (63 : Nat)),
        .telling "b" (2 ^ (63 : Nat))]⟩ { postgres := "pg://h/d" })).2.server.record := by
  decide +kernel

end Seeder
end Seedbed

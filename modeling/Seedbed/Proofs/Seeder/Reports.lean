import Mathlib.Control.Monad.Basic
import Seedbed.Proofs.Seeder.AllOrNothing

/-!
# Reported successes

What a run that reports success has made the server keep: all rows of its routines if each of their
statements was carried out, and nothing otherwise. A routine that takes no notice of a failed
statement makes the difference, because the server answers the commit of its spoilt transaction
without an error.
-/

namespace Seedbed

open Program Database

namespace Seeder

/-- A report is about all routines of a run, and their rows are kept if none of the statements that
they sent has failed; if one has, none of them is. -/
def Substantiated (seeder : Seeder) (config : Config) (world : World) (report : Report) : Prop :=
  ∃ connection errands reply,
    Attempt seeder config (seeder.history config world) connection errands report.routines reply ∧
      (AllDone (exchanges errands) →
        (world.run (seeder.run config)).2.server.committed =
          world.server.committed ++ rowsOf (exchanges errands)) ∧
      (¬ AllDone (exchanges errands) →
        (world.run (seeder.run config)).2.server.committed = world.server.committed)

/-- What a run that reports success has made the server keep depends on its statements alone. -/
theorem substantiated_of_reported (seeder : Seeder)
    (plain : ∀ routine ∈ seeder.routines, routine.Plain) (config : Config) (world : World)
    (report : Report) (reported : (world.run (seeder.run config)).1 = .done (.ok report)) :
    seeder.Substantiated config world report := by
  have fate : Fate seeder config (Except.map Report.routines) world.server
      (world.run (seeder.run config)).1 (seeder.history config world)
      (world.run (seeder.run config)).2.server := meets_run config plain world
  cases fate with
  | unsent silent failed quiet =>
    obtain ⟨failure, same⟩ := failed _ reported
    cases same
  | @sent connection errands counts reply attempt told settled =>
    have same := told _ reported
    cases reply with
    | error fault => cases same
    | ok affected =>
      cases same
      refine ⟨connection, errands, .ok affected, attempt, ?_⟩
      cases settled with
      | discarded same excused => exact ⟨fun all => absurd rfl (excused all), fun _ => same⟩
      | kept all grown processed => exact ⟨fun _ => grown, fun failed => absurd all failed⟩

end Seeder

/-! ## A routine that takes no notice -/

/-- A routine that inserts a row, and takes no notice of what becomes of a query after that. -/
def Routine.lenient : Routine where
  name := "lenient"
  seed := fun _ => do
    let inserted ← Work.send (.insert "INSERT INTO t VALUES (1)" [])
    let _ ← Work.send (.query "SELECT 1/0")
    return inserted

theorem Routine.lenient_plain : Routine.lenient.Plain := by
  intro config
  refine And.intro ?_ fun _ => And.intro ?_ fun _ => trivial <;>
    rintro (same | same | same) <;> cases same

/-- A server that carries out every statement but queries. -/
def Database.Behaviour.unquestioned : Behaviour where
  connect := fun _ _ => none
  verdict := fun _ statement =>
    if statement.kind = .query then .refuse "division by zero" else .accept 1

namespace Seeder

theorem substantiated_of_reported_lenient :
    (World.run (run ⟨[.lenient]⟩ { postgres := "pg://h/d" }) .obliging).1 =
      .done (.ok { routines := [("lenient", 1)] }) ∧
    Substantiated ⟨[.lenient]⟩ { postgres := "pg://h/d" } .obliging
      { routines := [("lenient", 1)] } := by
  have reported : (World.run (run ⟨[.lenient]⟩ { postgres := "pg://h/d" }) .obliging).1 =
      .done (.ok { routines := [("lenient", 1)] }) := by decide +kernel
  exact ⟨reported, substantiated_of_reported ⟨[.lenient]⟩
    (List.forall_mem_singleton.mpr Routine.lenient_plain) _ _ _ reported⟩

/-- A run reports a row, and the server has kept none. -/
theorem reported_row_not_kept :
    Routine.lenient.Plain ∧
    (World.run (run ⟨[.lenient]⟩ { postgres := "pg://h/d" })
        { server := { behaviour := .unquestioned } }).1 =
      .done (.ok { routines := [("lenient", 1)] }) ∧
    (World.run (run ⟨[.lenient]⟩ { postgres := "pg://h/d" })
        { server := { behaviour := .unquestioned } }).2.server.committed = [] :=
  ⟨Routine.lenient_plain, by decide +kernel, by decide +kernel⟩

end Seeder
end Seedbed

import Seedbed.Proofs.Pool.Alone
import Seedbed.Seeder
import Seedbed.User.Table

/-!
# The work of routines

What routines do in a transaction, if they leave its beginning and its end to others. Whatever they
send, nothing is kept yet, and their connection stands where the statements so far have brought it
(`meets_through`, `meets_callAll`). If none fails, all of them were called in order (`Served`).
-/

namespace Seedbed

open Program Database
open Database.Server (Quiet)

/-- Whether an errand neither begins nor ends a transaction. -/
def Errand.Plain : Errand → Prop
  | .send statement => ¬ statement.controls
  | .say _ => True

/-- Whether a routine leaves the transaction to others, under every configuration. -/
def Routine.Plain (routine : Routine) : Prop := ∀ config, (routine.seed config).Asks Errand.Plain

/-- An errand that was run, with its answer. -/
abbrev Errand.Done := Event Errand.Answer

/-- The statement that was sent on an errand, if it is of that kind. -/
def Errand.exchange? : Errand.Done → Option Exchange
  | ⟨.send statement, reply⟩ => some (statement, reply)
  | ⟨.say _, _⟩ => none

/-- The statements that were sent on some errands, with their answers. -/
def exchanges (errands : List Errand.Done) : List Exchange := errands.filterMap Errand.exchange?

/-- An errand that was run over a connection. -/
def Errand.via (connection : ConnectionId) : Errand.Done → Request.Done
  | ⟨.send statement, reply⟩ => ⟨.send connection statement, reply⟩
  | ⟨.say line, _⟩ => ⟨.say line, ()⟩

theorem exchanges_append (earlier later : List Errand.Done) :
    exchanges (earlier ++ later) = exchanges earlier ++ exchanges later := List.filterMap_append

/-- All routines were called, in order, with these errands, and told these numbers of rows. -/
inductive Served (config : Config) :
    List Routine → List Errand.Done → List (String × Nat) → Prop where
  | none : Served config [] [] []
  | next {routine : Routine} {rest : List Routine} {errands later : List Errand.Done} {rows : Nat}
      {counts : List (String × Nat)} (ended : (routine.seed config).Yields errands (.ok rows))
      (others : Served config rest later counts) :
      Served config (routine :: rest) (errands ++ later) ((routine.name, rows) :: counts)

/-- Some errands were run over a connection whose transaction has seen some statements before. -/
structure Worked (connection : ConnectionId) (earlier : List Exchange) (before : World)
    (errands : List Errand.Done) (history : List Request.Done) (after : World) : Prop where
  asked : history = errands.map (Errand.via connection)
  plain : ∀ errand ∈ errands, errand.request.Plain
  stands : (after.server.session connection).Stands (earlier ++ exchanges errands)
  quiet : Quiet before.server after.server

variable {connection : ConnectionId} {earlier : List Exchange} {world : World}

theorem worked_nothing (stands : (world.server.session connection).Stands earlier) :
    Worked connection earlier world [] [] world where
  asked := rfl
  plain := nofun
  stands := by rw [exchanges, List.filterMap_nil, List.append_nil]; exact stands
  quiet := .refl world.server

theorem Worked.append {middle after : World} {errands others : List Errand.Done}
    {history later : List Request.Done}
    (first : Worked connection earlier world errands history middle)
    (second : Worked connection (earlier ++ exchanges errands) middle others later after) :
    Worked connection earlier world (errands ++ others) (history ++ later) after where
  asked := by rw [first.asked, second.asked, List.map_append]
  plain := List.forall_mem_append.mpr ⟨first.plain, second.plain⟩
  stands := by rw [exchanges_append, ← List.append_assoc]; exact second.stands
  quiet := first.quiet.trans second.quiet

/-- One more statement in a transaction. -/
theorem worked_send {statement : Statement} (plain : ¬ statement.controls)
    (stands : (world.server.session connection).Stands earlier) :
    Worked connection earlier world
      [⟨.send statement, (world.server.answer connection statement).1⟩]
      [⟨.send connection statement, (world.server.answer connection statement).1⟩]
      { world with server := (world.server.answer connection statement).2 } where
  asked := rfl
  plain := List.forall_mem_singleton.mpr plain
  stands := (Server.stands_answer plain stands).1
  quiet := ⟨(Server.stands_answer plain stands).2, world.server.record_answer connection statement⟩

/-- One more line in the log, while a transaction is open. -/
theorem worked_say (line : Log.Line) {after : World} (same : after.server = world.server)
    (stands : (world.server.session connection).Stands earlier) :
    Worked connection earlier world [⟨.say line, ()⟩] [⟨.say line, ()⟩] after where
  asked := rfl
  plain := List.forall_mem_singleton.mpr trivial
  stands := by rw [same]; exact (worked_nothing stands).stands
  quiet := by rw [same]; exact .refl world.server

/-- What plain work does in a transaction. -/
theorem meets_through {work : Work α} (plain : work.Asks Errand.Plain)
    (stands : (world.server.session connection).Stands earlier) :
    Meets World.perform (Seeder.through connection work) world fun outcome history after =>
      ∃ errands, Worked connection earlier world errands history after ∧
        ∀ value, outcome = .done value → work.Yields errands value := by
  induction work generalizing world earlier with
  | done value =>
    refine ⟨[], worked_nothing stands, fun last same => ?_⟩
    cases same
    exact .done value
  | halt => exact ⟨[], worked_nothing stands, nofun⟩
  | ask errand next ih =>
    cases errand with
    | send statement =>
      refine meets_request.mpr ?_
      have first := worked_send plain.1 stands
      refine (ih _ (plain.2 _) first.stands).mono ?_
      rintro outcome later after ⟨errands, worked, yields⟩
      exact ⟨_, first.append worked, fun value same => .ask (yields value same)⟩
    | say line =>
      refine meets_request.mpr ?_
      have same : (if world.listens line.level line.source
          then { world with log := line :: world.log } else world).server = world.server := by
        split <;> rfl
      have first := worked_say line same stands
      refine (ih () (plain.2 ()) first.stands).mono ?_
      rintro outcome later after ⟨errands, worked, yields⟩
      exact ⟨_, first.append worked, fun value same => .ask (yields value same)⟩

/-- What plain routines do in a transaction when they are called in order. -/
theorem meets_callAll {routines : List Routine} (plain : ∀ routine ∈ routines, routine.Plain)
    (config : Config) (stands : (world.server.session connection).Stands earlier) :
    Meets World.perform (Seeder.callAll connection config routines) world
      fun outcome history after =>
        ∃ errands, Worked connection earlier world errands history after ∧
          ∀ counts, outcome = .done (.ok counts) → Served config routines errands counts := by
  induction routines generalizing world earlier with
  | nil =>
    refine ⟨[], worked_nothing stands, fun counts same => ?_⟩
    cases same
    exact .none
  | cons routine rest ih =>
    obtain ⟨first, others⟩ := List.forall_mem_cons.mp plain
    refine meets_bind.mpr ((meets_through (first config) stands).mono ?_)
    rintro outcome history middle ⟨errands, worked, yields⟩
    cases outcome with
    | halted => exact ⟨errands, worked, nofun⟩
    | blocked => exact ⟨errands, worked, nofun⟩
    | done result =>
      cases result with
      | error failure =>
        refine meets_pure.mpr ⟨errands, ?_, nofun⟩
        rw [List.append_nil]
        exact worked
      | ok rows =>
        refine meets_bind.mpr ((ih others worked.stands).mono ?_)
        rintro outcome later after ⟨more, workedOn, served⟩
        cases outcome with
        | halted => exact ⟨errands ++ more, worked.append workedOn, nofun⟩
        | blocked => exact ⟨errands ++ more, worked.append workedOn, nofun⟩
        | done result =>
          cases result with
          | error failed =>
            refine meets_pure.mpr ⟨errands ++ more, ?_, nofun⟩
            rw [List.append_nil]
            exact worked.append workedOn
          | ok counts =>
            refine meets_pure.mpr ⟨errands ++ more, ?_, fun all same => ?_⟩
            · rw [List.append_nil]
              exact worked.append workedOn
            · cases same
              exact .next (yields _ rfl) (served counts rfl)

/-! ## Telling about it -/

namespace Seeder

theorem tells_say (level : Log.Level) (text : String) : (say level text).Asks Request.Tells :=
  And.intro trivial fun _ => trivial

theorem tells_tellRollback (reply : Except Fault Nat) :
    (tellRollback reply).Asks Request.Tells := by
  cases reply with
  | error fault => exact tells_say _ _
  | ok affected => exact trivial

theorem tells_announce (report : Report) : (announce report).Asks Request.Tells := by
  refine And.intro trivial fun (listens : Bool) => ?_
  cases listens with
  | false => exact trivial
  | true =>
    dsimp only
    split
    · exact trivial
    · exact tells_say _ _

end Seeder

/-! ## The routine for users -/

namespace UserTable

theorem asks_tellProgress (made total : Nat) : (tellProgress made total).Asks Errand.Plain := by
  unfold tellProgress
  split
  · exact And.intro trivial fun _ => trivial
  · exact trivial

theorem asks_insert (user : User) : user.insert.Asks Errand.Plain := by
  refine And.intro ?_ fun reply => trivial
  rintro (same | same | same) <;> cases same

theorem asks_insertRest (total left inserted : Nat) (generator : UserGenerator)
    (source : SeededStream) :
    (insertRest total left inserted generator source).Asks Errand.Plain := by
  induction left generalizing inserted generator source with
  | zero => exact And.intro trivial fun _ => trivial
  | succ left ih =>
    unfold insertRest
    split
    · exact trivial
    · exact trivial
    · refine (asks_insert _).bind fun reply => ?_
      cases reply with
      | error failure => exact trivial
      | ok rows =>
        dsimp only
        split
        · exact trivial
        · exact (asks_tellProgress _ total).bind fun _ => ih _ _ _

/-- The routine for users leaves the transaction to others. -/
theorem routine_plain (supplies : UserSupplies) : (routine supplies).Plain := by
  intro config
  exact And.intro trivial fun _ => asks_insertRest _ _ _ _ _

end UserTable
end Seedbed

import Seedbed.Pool.Basic
import Seedbed.Proofs.Program.History

/-!
# Kinds of requests

What some requests have to do with the slot, with the pools and with the rows that the server keeps,
and how those are answered that every proof about programs comes to.
-/

namespace Seedbed
namespace Request

/-- Something that was asked, with its answer. -/
abbrev Done := Program.Event Request.Answer

/-- The statement that is sent by a request, if it is of that kind. -/
def statement? : Request → Option Database.Statement
  | .send _ statement => some statement
  | _ => none

/-- Whether a request has nothing to do with the slot. -/
def Aside : Request → Prop
  | .lock | .unlock | .install _ _ _ | .current | .take => False
  | _ => True

/-- Whether a request can make the server keep no row. -/
def Quiet : Request → Prop
  | .send _ statement => statement = .begin ∨ statement = .rollback
  | _ => True

/-- Whether a request only opens or closes a connection that belongs to no pool. -/
def Opens : Request → Prop
  | .connect _ | .abandon _ => True
  | _ => False

/-- Whether a request only has to do with telling what happens. -/
def Tells : Request → Prop
  | .say _ | .listens _ _ | .elapsed => True
  | _ => False

/-- Whether a request belongs to the work over a connection, or tells about it. -/
def Works : Request → Prop
  | .send _ _ | .giveBack _ | .say _ | .listens _ _ | .elapsed => True
  | _ => False

variable {request : Request}

theorem Opens.aside (opens : request.Opens) : request.Aside := by
  cases request with
  | connect | abandon => exact trivial
  | _ => exact opens.elim

theorem Opens.quiet (opens : request.Opens) : request.Quiet := by
  cases request with
  | connect | abandon => exact trivial
  | _ => exact opens.elim

theorem Tells.quiet (tells : request.Tells) : request.Quiet := by
  cases request with
  | say | listens | elapsed => exact trivial
  | _ => exact tells.elim

theorem Tells.works (tells : request.Tells) : request.Works := by
  cases request with
  | say | listens | elapsed => exact trivial
  | _ => exact tells.elim

theorem Works.aside (works : request.Works) : request.Aside := by
  cases request with
  | send | giveBack | say | listens | elapsed => exact trivial
  | _ => exact works.elim

end Request

namespace World

variable {world after : World} {found : Option PoolId}

/-- The slot is only seen while it is not locked. -/
theorem seen_unlocked {next : World}
    (answered : (if world.locked then none else some (world.slot, next)) = some (found, after)) :
    world.locked = false ∧ found = world.slot ∧ after = next := by
  by_cases locked : world.locked
  · rw [if_pos locked] at answered
    cases answered
  · rw [if_neg locked] at answered
    cases answered
    exact ⟨Bool.eq_false_iff.mpr locked, rfl, rfl⟩

theorem perform_send (connection : ConnectionId) (statement : Database.Statement) :
    perform (.send connection statement) world =
      some ((world.server.answer connection statement).1,
        { world with server := (world.server.answer connection statement).2 }) := rfl

theorem connects_of_perform {params : ConnectionParams} {reply : Except Database.Fault ConnectionId}
    (answered : perform (.connect params) world = some (reply, after)) :
    world.server.connect params = (reply, after.server) ∧
      after = { world with server := after.server } := by
  simp only [perform, Option.some.injEq, Prod.mk.injEq] at answered
  obtain ⟨reply, rfl⟩ := answered
  exact ⟨Prod.ext reply rfl, rfl⟩

theorem perform_lock (answered : perform .lock world = some (found, after)) :
    world.locked = false ∧ found = world.slot ∧ after = { world with locked := true } :=
  seen_unlocked answered

theorem perform_current (answered : perform .current world = some (found, after)) :
    world.locked = false ∧ found = world.slot ∧ after = world := seen_unlocked answered

theorem perform_take (answered : perform .take world = some (found, after)) :
    world.locked = false ∧ found = world.slot ∧ after = { world with slot := none } :=
  seen_unlocked answered

end World
end Seedbed

import Seedbed.Pool.Basic

/-!
# How connections are lent

All that can happen when a connection of a pool is wanted: the pool is closed, or a connection that
has waited is lent, or a new one. What a loan changes in the world, and what it tells about the
connection, is read off these cases (`lends_of_checkOut`).
-/

namespace Seedbed.World

open Database (Fault)

variable {world after : World} {pool : PoolId} {params : ConnectionParams}
  {reply : Except Fault ConnectionId}

/-- What comes of a call for a new connection of a pool, unless nobody answers it. -/
inductive LendsNew (world : World) (pool : PoolId) (params : ConnectionParams) :
    Except Fault ConnectionId → World → Prop where
  | refused {fault : Fault} {server : Database.Server}
      (connects : world.server.connect params = (.error fault, server)) :
      LendsNew world pool params (.error fault) { world with server }
  | opened {connection : ConnectionId} {server : Database.Server}
      (connects : world.server.connect params = (.ok connection, server)) :
      LendsNew world pool params (.ok connection)
        ({ world with server }.modifyPool pool fun state =>
          { state with out := connection :: state.out })

/-- What comes of a wish for a connection of a pool, unless it has to wait. -/
inductive Lends (world : World) (pool : PoolId) : Except Fault ConnectionId → World → Prop where
  | closed : Lends world pool (.error .poolClosed) world
  /-- A connection that has waited is still there. -/
  | waiting {state : Pool} {connection : ConnectionId} {idle : List ConnectionId}
      (made : world.pool? pool = some state) (waits : state.idle = connection :: idle)
      (there : (world.server.ping connection).1 = true) :
      Lends world pool (.ok connection)
        ({ world with server := (world.server.ping connection).2 }.modifyPool pool fun state =>
          { state with idle, out := connection :: state.out })
  /-- A connection that has waited is no longer there. -/
  | replaced {state : Pool} {connection : ConnectionId} {idle : List ConnectionId}
      {reply : Except Fault ConnectionId} {after : World}
      (lent : LendsNew
        ({ world with server := (world.server.ping connection).2 }.modifyPool pool fun state =>
          { state with idle }) pool state.params reply after)
      (made : world.pool? pool = some state) (waits : state.idle = connection :: idle)
      (gone : (world.server.ping connection).1 = false) : Lends world pool reply after
  /-- None has waited, and not all that may be open are out. -/
  | new {state : Pool} {reply : Except Fault ConnectionId} {after : World}
      (lent : LendsNew world pool state.params reply after)
      (made : world.pool? pool = some state) (waits : state.idle = [])
      (room : state.out.length < state.max) : Lends world pool reply after

theorem lendsNew_of_lendNew (lent : world.lendNew pool params = some (reply, after)) :
    LendsNew world pool params reply after := by
  unfold lendNew at lent
  cases connects : world.server.connect params with
  | mk answer server =>
  cases answer with
  | error fault =>
    simp only [connects] at lent
    split at lent
    · cases lent
    · cases lent
      exact .refused connects
  | ok connection =>
    simp only [connects] at lent
    cases lent
    exact .opened connects

theorem lends_of_checkOut (lent : world.checkOut pool = some (reply, after)) :
    Lends world pool reply after := by
  unfold checkOut at lent
  cases made : world.pool? pool with
  | none =>
    simp only [made] at lent
    cases lent
    exact .closed
  | some state =>
    simp only [made] at lent
    by_cases closed : state.closed
    · simp only [closed, ↓reduceIte] at lent
      cases lent
      exact .closed
    · simp only [closed, Bool.false_eq_true, ↓reduceIte] at lent
      cases waits : state.idle with
      | nil =>
        simp only [waits] at lent
        split at lent
        · cases lent
        · rename_i room
          exact .new (lendsNew_of_lendNew lent) made waits (Nat.not_le.mp room)
      | cons connection idle =>
        simp only [waits] at lent
        split at lent
        · rename_i there
          cases lent
          exact .waiting made waits there
        · rename_i absent
          exact .replaced (lendsNew_of_lendNew lent) made waits (Bool.eq_false_iff.mpr absent)

end Seedbed.World

import Seedbed.Database.Server
import Seedbed.Failure
import Seedbed.Log
import Seedbed.Program

/-!
# Pools

A pool keeps connections open and lends each of them to one holder at a time. A manager has a slot
for one pool, and a lock: whoever makes a pool holds the slot from the look into it until the pool
is in there, and nobody else gets to see the slot meanwhile. A pool that has been taken out of the
slot may still have connections out; they are closed when they come back. Each request of this
module is a single step: between two of them other programs may make theirs.
-/

namespace Seedbed

/-- A pool, by the number of pools made before it. -/
abbrev PoolId := Nat

/-- A connection, by the number of connections opened before it. -/
abbrev ConnectionId := Nat

structure Pool where
  params : ConnectionParams
  /-- How many connections may be open at once. -/
  max : Nat
  closed : Bool := false
  /-- The connections that wait to be lent, the next one first. -/
  idle : List ConnectionId := []
  out : List ConnectionId := []
  deriving Repr

/-- What a program can ask of the pools and the server. -/
inductive Request where
  /-- The pool in the slot, which is locked from then on; the program waits while it is locked. -/
  | lock
  | unlock
  /-- A connection that belongs to no pool yet. -/
  | connect (params : ConnectionParams)
  /-- Closes a connection that belongs to no pool. -/
  | abandon (connection : ConnectionId)
  /-- Puts a new pool with some connections into the slot. -/
  | install (params : ConnectionParams) (max : Nat) (idle : List ConnectionId)
  /-- The pool in the slot; the program waits while the slot is locked. -/
  | current
  /-- The pool in the slot, which is taken out of it; the program waits while the slot is locked. -/
  | take
  /-- A connection of a pool; the program waits while all of them are out. -/
  | checkOut (pool : PoolId)
  | giveBack (connection : ConnectionId)
  | outstanding (pool : PoolId)
  /-- Closes a pool with its idle connections. -/
  | close (pool : PoolId)
  | closeLater (pool : PoolId)
  | send (connection : ConnectionId) (statement : Database.Statement)
  | listens (level : Log.Level) (source : Log.Source)
  | say (line : Log.Line)
  /-- How many milliseconds have passed since the start. -/
  | elapsed

@[reducible] def Request.Answer : Request → Type
  | .lock | .current | .take => Option PoolId
  | .install _ _ _ => PoolId
  | .connect _ | .checkOut _ => Except Database.Fault ConnectionId
  | .send _ _ => Except Database.Fault Nat
  | .outstanding _ | .elapsed => Nat
  | .listens _ _ => Bool
  | .unlock | .abandon _ | .giveBack _ | .close _ | .closeLater _ | .say _ => Unit

abbrev PoolProgram := Program Request.Answer

structure World where
  server : Database.Server
  /-- The pool in the manager's slot. -/
  slot : Option PoolId := none
  locked : Bool := false
  /-- All pools that were made. -/
  pools : List Pool := []
  /-- Pools that are to be closed at some time later. -/
  closing : List PoolId := []
  listens : Log.Level → Log.Source → Bool := fun _ _ => true
  /-- The lines so far, the latest first. -/
  log : List Log.Line := []
  /-- How many milliseconds a run takes. -/
  elapsed : Nat := 0

namespace World

/-- A world without pools, whose server does all that it is asked. -/
def obliging : World where
  server := { behaviour := .obliging }

def pool? (world : World) (pool : PoolId) : Option Pool := world.pools[pool]?

def modifyPool (world : World) (pool : PoolId) (change : Pool → Pool) : World :=
  { world with pools := world.pools.modify pool change }

theorem pool?_modifyPool (world : World) (pool : PoolId) (change : Pool → Pool) :
    (world.modifyPool pool change).pool? pool = (world.pool? pool).map change := by
  simp [pool?, modifyPool]

theorem pool?_modifyPool_ne {world : World} {pool other : PoolId} (change : Pool → Pool)
    (different : pool ≠ other) :
    (world.modifyPool pool change).pool? other = world.pool? other := by
  simp [pool?, modifyPool, different]

def disconnect (world : World) (connections : List ConnectionId) : World :=
  { world with server := connections.foldl Database.Server.disconnect world.server }

def install (world : World) (params : ConnectionParams) (max : Nat) (idle : List ConnectionId) :
    World :=
  { world with
    slot := some world.pools.length
    pools := world.pools ++ [{ params, max, idle }] }

/-- Lends a new connection of a pool; none while nobody answers the call for it. -/
def lendNew (world : World) (pool : PoolId) (params : ConnectionParams) :
    Option (Except Database.Fault ConnectionId × World) :=
  match world.server.connect params with
  | (.error fault, server) =>
    if fault.isPassing then none else some (.error fault, { world with server })
  | (.ok connection, server) =>
    some (.ok connection, { world with server }.modifyPool pool fun state =>
      { state with out := connection :: state.out })

/-- Lends a connection of a pool; none if all that may be open are out, or while nobody answers the
call for a new one. One that has waited and is no longer there is replaced by a new one. -/
def checkOut (world : World) (pool : PoolId) :
    Option (Except Database.Fault ConnectionId × World) :=
  match world.pool? pool with
  | none => some (.error .poolClosed, world)
  | some state =>
    if state.closed then some (.error .poolClosed, world)
    else
      match state.idle with
      | [] => if state.max ≤ state.out.length then none else world.lendNew pool state.params
      | connection :: idle =>
        let (there, server) := world.server.ping connection
        let world := { world with server }
        if there then
          some (.ok connection, world.modifyPool pool fun state =>
            { state with idle, out := connection :: state.out })
        else (world.modifyPool pool fun state => { state with idle }).lendNew pool state.params

/-- The pool that has lent a connection. -/
def lender? (world : World) (connection : ConnectionId) : Option PoolId :=
  world.pools.findIdx? fun pool => pool.out.contains connection

/-- Makes a connection fit to be lent again: a transaction that is open on it is rolled back. Tells
whether the connection is of further use. -/
def recover (server : Database.Server) (connection : ConnectionId) : Bool × Database.Server :=
  match server.session connection with
  | .idle => (true, server)
  | .lost => (false, server)
  | .transaction _ | .spoilt =>
    let (reply, server) := server.answer connection .rollback
    (reply.isOk, server)

/-- Takes a connection back: it waits in its pool again, or is closed if the pool is, or if the
connection is of no further use. -/
def giveBack (world : World) (connection : ConnectionId) : World :=
  match world.lender? connection with
  | none => world
  | some pool =>
    let world := world.modifyPool pool fun state => { state with out := state.out.erase connection }
    if (world.pool? pool).any Pool.closed then world.disconnect [connection]
    else
      let (useful, server) := recover world.server connection
      let world := { world with server }
      if useful then
        world.modifyPool pool fun state => { state with idle := state.idle ++ [connection] }
      else world.disconnect [connection]

def outstanding (world : World) (pool : PoolId) : Nat :=
  ((world.pool? pool).map (·.out.length)).getD 0

def close (world : World) (pool : PoolId) : World :=
  let idle := ((world.pool? pool).map Pool.idle).getD []
  (world.modifyPool pool fun state => { state with closed := true, idle := [] }).disconnect idle

/-- Closes the pool that has waited longest for it. -/
def closeNext (world : World) : World :=
  match world.closing with
  | [] => world
  | pool :: closing => { world with closing }.close pool

def closeAll (world : World) : World := world.closing.foldl (fun world _ => world.closeNext) world

/-- Answers a request; none while the program has to wait. -/
def perform : (request : Request) → World → Option (request.Answer × World)
  | .lock, world =>
    if world.locked then none else some (world.slot, { world with locked := true })
  | .unlock, world => some ((), { world with locked := false })
  | .connect params, world =>
    let (reply, server) := world.server.connect params
    some (reply, { world with server })
  | .abandon connection, world => some ((), world.disconnect [connection])
  | .install params max idle, world =>
    some (world.pools.length, world.install params max idle)
  | .current, world => if world.locked then none else some (world.slot, world)
  | .take, world => if world.locked then none else some (world.slot, { world with slot := none })
  | .checkOut pool, world => world.checkOut pool
  | .giveBack connection, world => some ((), world.giveBack connection)
  | .outstanding pool, world => some (world.outstanding pool, world)
  | .close pool, world => some ((), world.close pool)
  | .closeLater pool, world => some ((), { world with closing := world.closing ++ [pool] })
  | .send connection statement, world =>
    let (reply, server) := world.server.answer connection statement
    some (reply, { world with server })
  | .listens level source, world => some (world.listens level source, world)
  | .say line, world =>
    some ((), if world.listens line.level line.source then { world with log := line :: world.log }
      else world)
  | .elapsed, world => some (world.elapsed, world)

/-- Runs a program to its end, with nothing else going on. -/
def run (program : PoolProgram α) (world : World) : Program.Outcome α × World :=
  program.run perform world

end World
end Seedbed

import Seedbed.Pool.Basic

/-!
# Managing a pool

What callers of a pool manager can do. A pool that is shut down is closed at once if none of its
connections is out, and otherwise at some time later; those that are out are not waited for.
-/

namespace Seedbed.PoolManager

def boundsFailure? (min max : Nat) : Option Failure :=
  if min = 0 ∨ max < min then some (.invalidPoolBounds min max) else none

def probe (params : ConnectionParams) : PoolProgram (Except Database.Fault Unit) := do
  let reply : Except Database.Fault ConnectionId ← Program.request (Request.connect params)
  match reply with
  | .error fault => return .error fault
  | .ok connection =>
    Program.request (Request.abandon connection)
    return .ok ()

/-- Opens some connections, or none of them if one cannot be opened. A fault that may pass is waited
for, but not for ever. -/
def connectMany (params : ConnectionParams) :
    (count : Nat) → PoolProgram (Except Database.Fault (List ConnectionId))
  | 0 => return .ok []
  | count + 1 => do
    let reply : Except Database.Fault ConnectionId ← Program.request (Request.connect params)
    match reply with
    | .error fault => return .error (if fault.isPassing then .poolTimedOut else fault)
    | .ok connection =>
      match ← connectMany params count with
      | .error fault =>
        Program.request (Request.abandon connection)
        return .error fault
      | .ok connections => return .ok (connection :: connections)

/-- Opens the first connections of a pool, after one that only shows whether the server answers. -/
def connectFirst (params : ConnectionParams) (count : Nat) :
    PoolProgram (Except Database.Fault (List ConnectionId)) := do
  match ← probe params with
  | .error fault => return .error fault
  | .ok () => connectMany params count

/-- The first connections of a pool; a lazy one has none. -/
def firstConnections (eager : Bool) (params : ConnectionParams) (count : Nat) :
    PoolProgram (Except Database.Fault (List ConnectionId)) :=
  if eager then connectFirst params count else return .ok []

/-- Makes a pool and puts it into the slot, which is locked, if there is none in it yet. -/
def fill (eager : Bool) (min max : Nat) (params : ConnectionParams) :
    (found : Option PoolId) → PoolProgram (Except Failure Unit)
  | some _ => return .error .alreadyInitialized
  | none =>
    match boundsFailure? min max with
    | some failure => return .error failure
    | none => do
      match ← firstConnections eager params min with
      | .error fault => return .error (.database fault)
      | .ok idle =>
        let _ : PoolId ← Program.request (Request.install params max idle)
        return .ok ()

/-- Makes a pool, if there is none; an eager one has its first connections opened at once. -/
def make (eager : Bool) (min max : Nat) (params : ConnectionParams) :
    PoolProgram (Except Failure Unit) := do
  let found : Option PoolId ← Program.request Request.lock
  let made ← fill eager min max params found
  Program.request Request.unlock
  return made

def establish (min max : Nat) (params : ConnectionParams) : PoolProgram (Except Failure Unit) :=
  make true min max params

def establishLazily (min max : Nat) (params : ConnectionParams) :
    PoolProgram (Except Failure Unit) :=
  make false min max params

def isEstablished : PoolProgram Bool := do
  let found : Option PoolId ← Program.request Request.current
  return found.isSome

def acquire : PoolProgram (Except Failure ConnectionId) := do
  let found : Option PoolId ← Program.request Request.current
  match found with
  | none => return .error .notInitialized
  | some pool =>
    let lent : Except Database.Fault ConnectionId ← Program.request (Request.checkOut pool)
    return lent.mapError .database

def release (connection : ConnectionId) : PoolProgram Unit :=
  Program.request (Request.giveBack connection)

/-- Closes a pool that was forgotten: at once if none of its connections is out. -/
def retire (pool : PoolId) (outstanding : Nat) : PoolProgram Unit :=
  if outstanding = 0 then Program.request (Request.close pool)
  else Program.request (Request.closeLater pool)

/-- Closes the pool, if there is one, and forgets it. -/
def shutdown : PoolProgram Unit := do
  let found : Option PoolId ← Program.request Request.take
  match found with
  | none => return
  | some pool =>
    let outstanding : Nat ← Program.request (Request.outstanding pool)
    retire pool outstanding

end Seedbed.PoolManager

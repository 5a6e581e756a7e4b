import Mathlib.Data.List.Basic
import Mathlib.Logic.Relation
import Seedbed.Proofs.Pool.TwoStates

/-!
# Callers and what they hold

Any number of callers use one manager, which has one pool after another. Callers hold what they were
lent until they give it back, and may pass it on; what is released is held no longer (`Hall.Step`).
Every call goes through the same stances whatever else happens (`Stance.follows_program`): whoever
makes a pool knows which connections were opened for it, and whoever acquires a connection knows
which pool was read.
-/

namespace Seedbed.PoolManager

open Program Function

/-- Something that was asked for a call, and how it was answered. -/
structure Asked where
  call : Call
  done : Request.Done

/-- A world with callers of a manager, who hold connections. -/
structure Hall extends Scene Call.Answer where
  /-- The connections that each caller holds. -/
  held : Nat → List ConnectionId
  /-- What was asked so far, for all calls; the latest comes last. -/
  asked : List Asked

/-- A world that nobody has begun to use. -/
def Hall.opening (world : World) : Hall where
  toScene := .opening world
  held _ := []
  asked := []

/-- The connections that are handed over with a call. -/
def Call.takes : Call → List ConnectionId
  | .release connection => [connection]
  | _ => []

/-- The connections that an answer brings. -/
def Call.brings : (call : Call) → call.Answer → List ConnectionId
  | .acquire, .ok connection => [connection]
  | _, _ => []

/-- A change of the world that is up to nobody: connections may be lost and opened, statements may
be carried out and lines written. -/
structure Stirs (before after : World) : Prop where
  slot : after.slot = before.slot
  locked : after.locked = before.locked
  pools : after.pools = before.pools
  closing : after.closing = before.closing
  longer : before.server.opened ≤ after.server.opened

/-- What can happen next. -/
inductive Hall.Step (hall : Hall) : Hall → Prop where
  /-- A caller makes a call; only what the caller holds can be released. -/
  | calls {who : Nat} (call : Call) (idle : hall.callers who = .free)
      (owns : ∀ connection ∈ call.takes, connection ∈ hall.held who) :
      hall.Step { hall with
        callers := update hall.callers who (.busy call [] call.program)
        held := update hall.held who ((hall.held who).diff call.takes) }
  /-- A caller makes the next request, if that need not wait. -/
  | asks {who : Nat} {call : Call} {past : List Request.Done} {request : Request}
      {next : request.Answer → PoolProgram call.Answer} {answer : request.Answer} {after : World}
      (turn : hall.callers who = .busy call past (.ask request next))
      (answered : World.perform request hall.world = some (answer, after)) :
      hall.Step { hall with
        world := after
        callers := update hall.callers who
          (.busy call (past ++ [⟨request, answer⟩]) (next answer))
        asked := hall.asked ++ [⟨call, request, answer⟩] }
  /-- A caller gets the answer to a call. -/
  | gets {who : Nat} {call : Call} {past : List Request.Done} {answer : call.Answer}
      (turn : hall.callers who = .busy call past (.done answer)) :
      hall.Step { hall with
        callers := update hall.callers who .free
        held := update hall.held who (call.brings answer ++ hall.held who) }
  /-- A caller passes a connection on to another. -/
  | passes {giver taker : Nat} {connection : ConnectionId}
      (owns : connection ∈ hall.held giver) (different : giver ≠ taker) :
      hall.Step { hall with
        held := update (update hall.held giver ((hall.held giver).erase connection)) taker
          (connection :: hall.held taker) }
  /-- A pool is closed that was to be closed at some time later. -/
  | closes {pool : PoolId} (due : pool ∈ hall.world.closing) :
      hall.Step { hall with
        world := { hall.world with closing := hall.world.closing.erase pool }.close pool }
  | stirs {after : World} (stirs : Stirs hall.world after) :
      hall.Step { hall with world := after }

/-- What can happen, in any order. -/
def Hall.Reaches : Hall → Hall → Prop := Relation.ReflTransGen Hall.Step

/-! ## Playing -/

namespace Hall

variable {hall next : Hall}

/-- Gives a caller a turn; none if the caller can do nothing with it. -/
def play (hall : Hall) : Turn Call → Option Hall
  | .call who call =>
    match hall.callers who with
    | .free =>
      if ∀ connection ∈ call.takes, connection ∈ hall.held who then
        some { hall with
          callers := update hall.callers who (.busy call [] call.program)
          held := update hall.held who ((hall.held who).diff call.takes) }
      else none
    | .busy _ _ _ => none
  | .step who =>
    match hall.callers who with
    | .busy call _ (.done answer) => some { hall with
        callers := update hall.callers who .free
        held := update hall.held who (call.brings answer ++ hall.held who) }
    | .busy call past (.ask request next) =>
      (World.perform request hall.world).map fun (answer, after) => { hall with
        world := after
        callers := update hall.callers who
          (.busy call (past ++ [⟨request, answer⟩]) (next answer))
        asked := hall.asked ++ [⟨call, request, answer⟩] }
    | .busy _ _ .halt => none
    | .free => none

/-- What is played can happen. -/
theorem step_play {turn : Turn Call} (played : hall.play turn = some next) : hall.Step next := by
  cases turn with
  | call who call =>
    simp only [play] at played
    split at played
    · rename_i idle
      split at played
      · rename_i owns
        cases played
        exact .calls call idle owns
      · cases played
    · cases played
  | step who =>
    simp only [play] at played
    split at played
    · rename_i call past answer turn
      cases played
      exact .gets turn
    · rename_i call past request following turn
      obtain ⟨⟨answer, after⟩, answered, same⟩ := Option.map_eq_some_iff.mp played
      cases same
      exact .asks turn answered
    · cases played
    · cases played

theorem reaches_plays (turns : List (Turn Call)) (played : turns.foldlM play hall = some next) :
    hall.Reaches next := by
  induction turns generalizing hall with
  | nil =>
    cases played
    exact .refl
  | cons turn rest ih =>
    obtain ⟨middle, first, others⟩ := Option.bind_eq_some_iff.mp played
    exact .head (step_play first) (ih others)

end Hall

/-! ## The stances of a caller -/

/-- Where a caller stands. -/
inductive Stance where
  | rest
  | called (call : Call)
  /-- The caller makes a pool, and has opened some connections for it. -/
  | opening (wish : Wish) (opened : List ConnectionId)
  /-- The caller has made a pool. -/
  | filled
  /-- The caller has read a pool in the slot. -/
  | lending (pool : PoolId)
  /-- The caller was lent a connection, and is about to be told so. -/
  | lent (pool : PoolId) (connection : ConnectionId)
  /-- Nothing that matters is left to be done. -/
  | over

namespace Stance

/-- The connections that a caller has opened for a pool. -/
def opened : Stance → List ConnectionId
  | .opening _ opened => opened
  | _ => []

/-- The connections of pools that a caller has in hand, in the middle of a call. -/
def hand : Stance → List ConnectionId
  | .called call => call.takes
  | .lent _ connection => [connection]
  | _ => []

/-- How requests lead from stance to stance. -/
inductive Moves : Stance → (request : Request) → request.Answer → Stance → Prop where
  | lock (wish : Wish) (found : Option PoolId) :
      Moves (.called (.establish wish)) .lock found (.opening wish [])
  | opens (wish : Wish) (opened : List ConnectionId) (params : ConnectionParams)
      (connection : ConnectionId) :
      Moves (.opening wish opened) (.connect params) (.ok connection)
        (.opening wish (opened ++ [connection]))
  | fails (wish : Wish) (opened : List ConnectionId) (params : ConnectionParams)
      (fault : Database.Fault) :
      Moves (.opening wish opened) (.connect params) (.error fault) (.opening wish opened)
  /-- A connection that is abandoned is just not used any more. -/
  | abandon (wish : Wish) (opened : List ConnectionId) (connection : ConnectionId) :
      Moves (.opening wish opened) (.abandon connection) () (.opening wish opened)
  | install {wish : Wish} {opened idle : List ConnectionId} (own : idle.Sublist opened)
      (few : idle.length ≤ wish.max) (pool : PoolId) :
      Moves (.opening wish opened) (.install wish.params wish.max idle) pool .filled
  | unlock : Moves .filled .unlock () .over
  | giveUp (wish : Wish) (opened : List ConnectionId) :
      Moves (.opening wish opened) .unlock () .over
  | miss : Moves (.called .acquire) .current none .over
  | read (pool : PoolId) : Moves (.called .acquire) .current (some pool) (.lending pool)
  | borrow (pool : PoolId) (connection : ConnectionId) :
      Moves (.lending pool) (.checkOut pool) (.ok connection) (.lent pool connection)
  | refuse (pool : PoolId) (fault : Database.Fault) :
      Moves (.lending pool) (.checkOut pool) (.error fault) .over
  | giveBack (connection : ConnectionId) :
      Moves (.called (.release connection)) (.giveBack connection) () .over
  | take (found : Option PoolId) : Moves (.called .shutdown) .take found .over
  | outstanding (pool : PoolId) (count : Nat) : Moves .over (.outstanding pool) count .over
  | close (pool : PoolId) : Moves .over (.close pool) () .over
  | closeLater (pool : PoolId) : Moves .over (.closeLater pool) () .over
  | look (found : Option PoolId) : Moves (.called .isEstablished) .current found .over

/-- Any answer can be expected. -/
def protocol : Protocol Request.Answer where
  Phase := Stance
  Expects _ _ _ := True
  Moves := Moves

/-- Some more connections are opened for a pool. -/
theorem follows_connectMany (wish : Wish) (opened : List ConnectionId) (params : ConnectionParams)
    (count : Nat) :
    Follows protocol
      (fun later reply => ∃ more, later = opening wish (opened ++ more) ∧
        ∀ connections, reply = .ok connections → connections = more ∧ connections.length = count)
      (.opening wish opened) (connectMany params count) := by
  induction count generalizing opened with
  | zero =>
    refine ⟨[], by rw [List.append_nil], fun connections same => ?_⟩
    cases same
    exact ⟨rfl, rfl⟩
  | succ count ih =>
    intro reply _
    cases reply with
    | error fault => exact ⟨_, .fails wish opened params fault, [], by rw [List.append_nil], nofun⟩
    | ok connection =>
      refine ⟨_, .opens wish opened params connection, ?_⟩
      refine (ih (opened ++ [connection])).bind ?_
      rintro later rest ⟨more, rfl, all⟩
      have joined : opened ++ [connection] ++ more = opened ++ connection :: more :=
        List.append_assoc ..
      cases rest with
      | error fault =>
        exact fun _ _ => ⟨_, .abandon wish _ connection, _, congrArg (opening wish) joined, nofun⟩
      | ok connections =>
        obtain ⟨rfl, enough⟩ := all connections rfl
        refine ⟨_, congrArg (opening wish) joined, fun others same => ?_⟩
        cases same
        exact ⟨rfl, by rw [List.length_cons, enough]⟩

/-- The first connections of a pool are among those that were opened for it. -/
theorem follows_firstConnections (wish : Wish) (eager : Bool) (params : ConnectionParams)
    (count : Nat) :
    Follows protocol
      (fun later reply => ∃ opened, later = opening wish opened ∧
        ∀ connections, reply = .ok connections →
          connections.Sublist opened ∧ connections.length ≤ count)
      (.opening wish []) (firstConnections eager params count) := by
  cases eager with
  | false =>
    refine ⟨[], rfl, fun connections same => ?_⟩
    cases same
    exact ⟨.refl _, Nat.zero_le _⟩
  | true =>
    intro reply _
    cases reply with
    | error fault => exact ⟨_, .fails wish [] params fault, _, rfl, nofun⟩
    | ok probe =>
      refine ⟨_, .opens wish [] params probe, fun _ _ => ⟨_, .abandon wish _ probe, ?_⟩⟩
      refine (follows_connectMany wish [probe] params count).mono ?_
      rintro later reply ⟨more, rfl, all⟩
      refine ⟨_, rfl, fun connections same => ?_⟩
      obtain ⟨rfl, enough⟩ := all connections same
      exact ⟨List.sublist_append_right .., Nat.le_of_eq enough⟩

theorem follows_make (wish : Wish) :
    Follows protocol (fun later _ => later = .over) (.called (.establish wish))
      (make wish.eager wish.min wish.max wish.params) := by
  refine fun found _ => ⟨_, .lock wish found, ?_⟩
  -- However the slot is filled, it is unlocked afterwards.
  suffices fills : Follows protocol
      (fun later _ => later = filled ∨ ∃ opened, later = opening wish opened)
      (.opening wish []) (fill wish.eager wish.min wish.max wish.params found) by
    refine fills.bind ?_
    rintro _ made (rfl | ⟨opened, rfl⟩)
    · exact fun _ _ => ⟨_, .unlock, rfl⟩
    · exact fun _ _ => ⟨_, .giveUp wish opened, rfl⟩
  cases found with
  | some pool => exact .inr ⟨[], rfl⟩
  | none =>
    unfold fill
    by_cases bad : wish.min = 0 ∨ wish.max < wish.min
    · rw [boundsFailure?, if_pos bad]
      exact .inr ⟨[], rfl⟩
    · rw [boundsFailure?, if_neg bad]
      refine (follows_firstConnections wish wish.eager wish.params wish.min).bind ?_
      rintro _ reply ⟨opened, rfl, all⟩
      cases reply with
      | error fault => exact .inr ⟨opened, rfl⟩
      | ok idle =>
        obtain ⟨own, few⟩ := all idle rfl
        have within : idle.length ≤ wish.max := by omega
        exact fun pool _ => ⟨_, .install own within pool, .inl rfl⟩

/-- Every call is carried out by the protocol; whatever it brings was lent. -/
theorem follows_program (call : Call) :
    Follows protocol
      (fun later answer => ∀ connection ∈ call.brings answer, ∃ pool, later = .lent pool connection)
      (.called call) call.program := by
  cases call with
  | establish wish => exact (follows_make wish).mono fun _ _ _ => nofun
  | acquire =>
    intro found _
    cases found with
    | none => exact ⟨_, .miss, nofun⟩
    | some pool =>
      refine ⟨_, .read pool, fun reply _ => ?_⟩
      cases reply with
      | error fault => exact ⟨_, .refuse pool fault, nofun⟩
      | ok connection =>
        refine ⟨_, .borrow pool connection, fun other brought => ?_⟩
        rw [List.mem_singleton.mp brought]
        exact ⟨pool, rfl⟩
  | release connection => exact fun _ _ => ⟨_, .giveBack connection, nofun⟩
  | shutdown =>
    intro found _
    refine ⟨_, .take found, ?_⟩
    cases found with
    | none => nofun
    | some pool =>
      refine fun outstanding _ => ⟨_, .outstanding pool outstanding, ?_⟩
      show Follows protocol _ _ (retire pool outstanding)
      unfold retire
      split
      · exact fun _ _ => ⟨_, .close pool, nofun⟩
      · exact fun _ _ => ⟨_, .closeLater pool, nofun⟩
  | isEstablished => exact fun found _ => ⟨_, .look found, nofun⟩

/-- Whether a caller in some stance may have asked some things for a call. -/
def Past : Stance → Call → List Request.Done → Prop
  | .called made, call, past => made = call ∧ past = []
  | .opening wish _, call, _ => call = .establish wish
  | .lending pool, call, past => call = .acquire ∧ past = [⟨.current, some pool⟩]
  | .lent pool connection, call, past => call = .acquire ∧
      past = [⟨.current, some pool⟩, ⟨.checkOut pool, .ok connection⟩]
  | _, _, _ => True

theorem Moves.past {stance later : Stance} {call : Call} {past : List Request.Done}
    {request : Request} {answer : request.Answer} (moves : Moves stance request answer later)
    (before : stance.Past call past) : later.Past call (past ++ [⟨request, answer⟩]) := by
  cases moves with
  | lock wish found => exact before.1.symm
  | opens | fails | abandon => exact before
  | read pool =>
    obtain ⟨rfl, rfl⟩ := before
    exact ⟨rfl, rfl⟩
  | borrow pool connection =>
    obtain ⟨rfl, rfl⟩ := before
    exact ⟨rfl, rfl⟩
  | _ => exact trivial

end Stance

end Seedbed.PoolManager

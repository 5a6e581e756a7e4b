import Mathlib.Data.List.Forall2
import Seedbed.Proofs.Pool.Hands
import Seedbed.Proofs.Pool.Scene
import Seedbed.Proofs.Program.Abreast
import Seedbed.Proofs.User.Reproducible

/-!
# Twin worlds

Two worlds that are the same but for what a password can make different: the server, the parameters
of the pools, and in the log the time that a run took (`Mirror`). Programs that go abreast with twin
requests, which differ in the same way (`Twin`), stay in such worlds as long as the servers give the
same replies; so they come to the same end, and what they have asked is the same but for that
(`alongside_run`).
-/

namespace Seedbed

open Program Database

/-! ## What may differ -/

/-- The line that tells what a run has done. -/
def completion (total elapsed : Nat) : Log.Line where
  source := .seeder
  text := "Database seeding completed: " ++ toString total ++ " rows in " ++ toString elapsed ++ " ms"

/-- Whether two lines are the same but for the time that a run took. -/
inductive Retold : Log.Line → Log.Line → Prop where
  | same (line : Log.Line) : Retold line line
  | completed (total elapsed elapsed' : Nat) :
      Retold (completion total elapsed) (completion total elapsed')

theorem Retold.level {line line' : Log.Line} (retold : Retold line line') :
    line'.level = line.level := by
  cases retold <;> rfl

theorem Retold.source {line line' : Log.Line} (retold : Retold line line') :
    line'.source = line.source := by
  cases retold <;> rfl

/-- Whether two statements are the same but for the hash of a password. -/
inductive Rehashed : Statement → Statement → Prop where
  | same (statement : Statement) : Rehashed statement statement
  | insert (user : User) (passwordHash : String) :
      Rehashed user.insertStatement { user with passwordHash }.insertStatement

/-- Whether neither a password nor a time has to do with a request. -/
def Request.Common : Request → Prop
  | .connect _ | .install _ _ _ | .send _ _ | .say _ | .elapsed => False
  | _ => True

/-- Requests that are the same but for a password, a hash or a time, and which answers to them
agree. -/
inductive Twin (params params' : ConnectionParams) : Pairing Request.Answer where
  | common {request : Request} (common : request.Common) : Twin params params' request request Eq
  | connect : Twin params params' (.connect params) (.connect params') Eq
  | install (max : Nat) (idle : List ConnectionId) :
      Twin params params' (.install params max idle) (.install params' max idle) Eq
  | send (connection : ConnectionId) {statement statement' : Statement}
      (rehashed : Rehashed statement statement') :
      Twin params params' (.send connection statement) (.send connection statement') Eq
  | say {line line' : Log.Line} (retold : Retold line line') :
      Twin params params' (.say line) (.say line') Eq
  | elapsed : Twin params params' .elapsed .elapsed fun _ _ => True

/-! ## What a server replies -/

/-- What a server has to say to a request: the reply to it, if there is any. -/
def Request.replied : (request : Request) → Option request.Answer →
    List (Option (Except Fault Nat))
  | .connect _, reply | .checkOut _, reply | .send _ _, reply => [reply]
  | _, _ => []

/-- What servers reply while a program is run; if the last request waits for ever, there is none. -/
def PoolProgram.replies : PoolProgram α → World → List (Option (Except Fault Nat))
  | .done _, _ => []
  | .halt, _ => []
  | .ask request next, world =>
    match World.perform request world with
    | some (answer, after) => request.replied (some answer) ++ PoolProgram.replies (next answer) after
    | none => request.replied none

/-! ## Worlds that mirror each other -/

namespace World

/-- The connections that each pool has out. -/
def outs (world : World) : List (List ConnectionId) := world.pools.map Pool.out

/-- Whether two worlds are the same but for the server, for what a password can make different of
the pools, and for the time in the log. -/
structure Mirror (world world' : World) : Prop where
  slot : world'.slot = world.slot
  locked : world'.locked = world.locked
  outs : world'.outs = world.outs
  listens : world'.listens = world.listens
  log : List.Forall₂ Retold world.log world'.log

variable {world world' after : World} {pool : PoolId} {connection : ConnectionId}
  {params params' : ConnectionParams} {reply : Except Fault ConnectionId}

theorem outs_modifyPool (world : World) (pool : PoolId) {change : Pool → Pool}
    (same : ∀ state, (change state).out = state.out) :
    (world.modifyPool pool change).pools.map Pool.out = world.outs := by
  have kept := @map_modifyPool _ world pool Pool.out change id same
  rwa [List.modify_id] at kept

/-- Which connections are out once a pool has answered a wish for one. -/
def lentOuts (outs : List (List ConnectionId)) (pool : PoolId) :
    Except Fault ConnectionId → List (List ConnectionId)
  | .error _ => outs
  | .ok connection => outs.modify pool (connection :: ·)

theorem LendsNew.outs (lends : LendsNew world pool params reply after) :
    ∃ server pools, after = { world with server, pools } ∧
      pools.map Pool.out = lentOuts world.outs pool reply := by
  cases lends with
  | refused connects => exact ⟨_, world.pools, rfl, rfl⟩
  | opened connects => exact ⟨_, _, rfl, map_modifyPool world pool Pool.out fun _ => rfl⟩

theorem Lends.outs (lends : Lends world pool reply after) :
    ∃ server pools, after = { world with server, pools } ∧
      pools.map Pool.out = lentOuts world.outs pool reply := by
  cases lends with
  | closed => exact ⟨world.server, world.pools, rfl, rfl⟩
  | waiting made waits there => exact ⟨_, _, rfl, map_modifyPool world pool Pool.out fun _ => rfl⟩
  | @replaced state connection idle reply after lent made waits =>
    obtain ⟨server, pools, rfl, outs⟩ := lent.outs
    refine ⟨server, pools, rfl, outs.trans (congrArg (lentOuts · pool reply) ?_)⟩
    exact outs_modifyPool world pool fun _ => rfl
  | new lent => exact lent.outs

theorem lender_eq (world : World) (connection : ConnectionId) :
    world.lender? connection = world.outs.findIdx? (·.contains connection) := by
  rw [outs, List.findIdx?_map]
  rfl

/-- Which connections are out once one was given back. -/
def returnedOuts (outs : List (List ConnectionId)) (connection : ConnectionId) :
    List (List ConnectionId) :=
  match outs.findIdx? (·.contains connection) with
  | none => outs
  | some pool => outs.modify pool (·.erase connection)

theorem outs_giveBack (world : World) (connection : ConnectionId) :
    ∃ server pools, world.giveBack connection = { world with server, pools } ∧
      pools.map Pool.out = returnedOuts world.outs connection := by
  cases lender : world.lender? connection with
  | none =>
    refine ⟨world.server, world.pools, ?_, ?_⟩
    · rw [giveBack, lender]
    · rw [returnedOuts, ← lender_eq, lender]
      rfl
  | some pool =>
    have taken :
        (world.modifyPool pool fun state =>
          { state with out := state.out.erase connection }).pools.map Pool.out =
            world.outs.modify pool (·.erase connection) :=
      map_modifyPool world pool Pool.out fun _ => rfl
    rw [returnedOuts, ← lender_eq, lender]
    have takes := takesBack_giveBack lender
    generalize world.giveBack connection = after at takes
    cases takes with
    | closed same => exact ⟨_, _, rfl, taken⟩
    | waits same =>
      refine ⟨_, _, rfl, Eq.trans ?_ taken⟩
      exact outs_modifyPool (world.modifyPool pool _) pool fun _ => rfl

theorem outs_close (world : World) (pool : PoolId) : (world.close pool).outs = world.outs :=
  outs_modifyPool world pool fun _ => rfl

theorem outstanding_eq (world : World) (pool : PoolId) :
    world.outstanding pool = ((world.outs[pool]?).map List.length).getD 0 := by
  rw [outs, List.getElem?_map, Option.map_map]
  rfl

namespace Mirror

theorem change (mirror : Mirror world world') {server server' : Server} {pools pools' : List Pool}
    (outs : pools'.map Pool.out = pools.map Pool.out) :
    Mirror { world with server, pools } { world' with server := server', pools := pools' } :=
  ⟨mirror.slot, mirror.locked, outs, mirror.listens, mirror.log⟩

theorem made (mirror : Mirror world world') : world'.pools.length = world.pools.length := by
  have sizes := congrArg List.length mirror.outs
  rwa [World.outs, World.outs, List.length_map, List.length_map] at sizes

theorem install (mirror : Mirror world world') (params params' : ConnectionParams) (max : Nat)
    (idle : List ConnectionId) :
    Mirror (world.install params max idle) (world'.install params' max idle) := by
  refine ⟨congrArg some mirror.made, mirror.locked, ?_, mirror.listens, mirror.log⟩
  have outs := mirror.outs
  simp only [World.outs, World.install, List.map_append] at outs ⊢
  rw [outs]
  rfl

theorem say (mirror : Mirror world world') {line line' : Log.Line} (retold : Retold line line') :
    Mirror (if world.listens line.level line.source then { world with log := line :: world.log }
        else world)
      (if world'.listens line'.level line'.source then { world' with log := line' :: world'.log }
        else world') := by
  rw [retold.level, retold.source, mirror.listens]
  split
  · exact ⟨mirror.slot, mirror.locked, mirror.outs, rfl, .cons retold mirror.log⟩
  · exact mirror

theorem giveBack (mirror : Mirror world world') (connection : ConnectionId) :
    Mirror (world.giveBack connection) (world'.giveBack connection) := by
  obtain ⟨_, _, given, outs⟩ := outs_giveBack world connection
  obtain ⟨_, _, given', outs'⟩ := outs_giveBack world' connection
  rw [given, given']
  refine mirror.change ?_
  rw [outs, outs', mirror.outs]

theorem close (mirror : Mirror world world') (pool : PoolId) :
    Mirror (world.close pool) (world'.close pool) :=
  mirror.change ((outs_close world' pool).trans (mirror.outs.trans (outs_close world pool).symm))

end Mirror

/-- How two worlds answer: neither of them does, or both do, with answers that agree, and then they
mirror each other. -/
def Matched (agrees : α → β → Prop) (answered : Option (α × World))
    (answered' : Option (β × World)) : Prop :=
  (answered = none ∧ answered' = none) ∨
    ∃ answer after answer' after', answered = some (answer, after) ∧
      answered' = some (answer', after') ∧ agrees answer answer' ∧ Mirror after after'

theorem Matched.answer {agrees : α → β → Prop} {answer : α} {answer' : β} {after' : World}
    (agree : agrees answer answer') (mirror : Mirror after after') :
    Matched agrees (some (answer, after)) (some (answer', after')) :=
  .inr ⟨_, _, _, _, rfl, rfl, agree, mirror⟩

namespace Mirror

theorem seen (mirror : Mirror world world') {next next' : World} (later : Mirror next next') :
    Matched Eq (if world.locked then none else some (world.slot, next))
      (if world'.locked then none else some (world'.slot, next')) := by
  rw [mirror.locked, mirror.slot]
  cases world.locked with
  | true => exact .inl ⟨rfl, rfl⟩
  | false => exact .answer rfl later

theorem checkOut (mirror : Mirror world world')
    (same : (world'.checkOut pool).map (·.1) = (world.checkOut pool).map (·.1)) :
    Matched Eq (world.checkOut pool) (world'.checkOut pool) := by
  cases lent : world.checkOut pool with
  | none =>
    rw [lent] at same
    exact .inl ⟨rfl, Option.map_eq_none_iff.mp same⟩
  | some answered =>
    obtain ⟨answer, after⟩ := answered
    rw [lent] at same
    obtain ⟨⟨answer', after'⟩, lent', rfl⟩ := Option.map_eq_some_iff.mp same
    obtain ⟨_, _, rfl, outs⟩ := (lends_of_checkOut lent).outs
    obtain ⟨_, _, rfl, outs'⟩ := (lends_of_checkOut lent').outs
    rw [lent']
    refine .answer rfl (mirror.change ?_)
    rw [outs, outs', mirror.outs]

/-- The request is the same in both worlds; what it depends on is, too, but for what a server
says. -/
theorem common (mirror : Mirror world world') {request : Request} (common : request.Common)
    (same : request.replied ((World.perform request world').map (·.1)) =
      request.replied ((World.perform request world).map (·.1))) :
    Matched Eq (World.perform request world) (World.perform request world') := by
  cases request with
  | connect | install | send | say | elapsed => exact common.elim
  | lock => exact mirror.seen ⟨mirror.slot, rfl, mirror.outs, mirror.listens, mirror.log⟩
  | current => exact mirror.seen mirror
  | take => exact mirror.seen ⟨rfl, mirror.locked, mirror.outs, mirror.listens, mirror.log⟩
  | unlock => exact .answer rfl ⟨mirror.slot, rfl, mirror.outs, mirror.listens, mirror.log⟩
  | abandon connection => exact .answer rfl (mirror.change mirror.outs)
  | checkOut pool => exact mirror.checkOut (List.cons.inj same).1
  | giveBack connection => exact .answer rfl (mirror.giveBack connection)
  | outstanding pool =>
    refine .answer ?_ mirror
    rw [outstanding_eq, outstanding_eq, mirror.outs]
  | close pool => exact .answer rfl (mirror.close pool)
  | closeLater pool =>
    exact .answer rfl ⟨mirror.slot, mirror.locked, mirror.outs, mirror.listens, mirror.log⟩
  | listens level source =>
    refine .answer ?_ mirror
    rw [mirror.listens]

/-- Twin requests that get the same reply keep worlds mirrored. -/
theorem perform (mirror : Mirror world world') {request request' : Request}
    {agrees : request.Answer → request'.Answer → Prop}
    (twin : Twin params params' request request' agrees)
    (same : request'.replied ((World.perform request' world').map (·.1)) =
      request.replied ((World.perform request world).map (·.1))) :
    Matched agrees (World.perform request world) (World.perform request' world') := by
  cases twin with
  | common common => exact mirror.common common same
  | connect =>
    have reply := Option.some.inj (List.cons.inj same).1
    exact .answer reply.symm (mirror.change mirror.outs)
  | install max idle => exact .answer mirror.made.symm (mirror.install params params' max idle)
  | send connection rehashed =>
    have reply := Option.some.inj (List.cons.inj same).1
    exact .answer reply.symm (mirror.change mirror.outs)
  | say retold => exact .answer rfl (mirror.say retold)
  | elapsed => exact .answer trivial mirror

end Mirror
end World

/-! ## Two runs -/

/-- Whether two runs come to the same kind of end, with values that meet a condition. -/
inductive SameEnd (ends : α → β → Prop) : Outcome α → Outcome β → Prop where
  | done {value : α} {value' : β} (ended : ends value value') :
      SameEnd ends (.done value) (.done value')
  | halted : SameEnd ends .halted .halted
  | blocked : SameEnd ends .blocked .blocked

/-- Whether two requests are twins. -/
def Twins (params params' : ConnectionParams) (request request' : Request) : Prop :=
  ∃ agrees, Twin params params' request request' agrees

/-- How two runs compare: their ends, what they have asked, and the worlds that they leave. -/
structure Alongside (params params' : ConnectionParams) (ends : α → β → Prop)
    (program : PoolProgram α) (program' : PoolProgram β) (world world' : World) : Prop where
  outcome : SameEnd ends (World.run program world).1 (World.run program' world').1
  asked : List.Forall₂ (Twins params params') (program.asked World.perform world)
    (program'.asked World.perform world')
  mirror : World.Mirror (World.run program world).2 (World.run program' world').2

theorem agree_of_eq {first second : List α} (same : second = first) : Agree first second :=
  .inl (same ▸ List.prefix_rfl)

/-- What was replied to twin requests comes first in what is replied at all. -/
theorem agree_append {first first' : List α} {rest rest' : List α}
    (agree : Agree (first ++ rest) (first' ++ rest')) (size : first.length = first'.length) :
    first = first' ∧ Agree rest rest' := by
  rcases agree with ⟨more, same⟩ | ⟨more, same⟩
  · rw [List.append_assoc] at same
    obtain ⟨rfl, rfl⟩ := List.append_inj same size
    exact ⟨rfl, .inl (List.prefix_append rest more)⟩
  · rw [List.append_assoc] at same
    obtain ⟨rfl, rfl⟩ := List.append_inj same size.symm
    exact ⟨rfl, .inr (List.prefix_append rest' more)⟩

theorem Twin.length_replied {params params' : ConnectionParams} {request request' : Request}
    {agrees : request.Answer → request'.Answer → Prop}
    (twin : Twin params params' request request' agrees) (answer : Option request.Answer)
    (answer' : Option request'.Answer) :
    (request.replied answer).length = (request'.replied answer').length := by
  cases twin with
  | common common => cases request <;> rfl
  | connect | install | send | say | elapsed => rfl

theorem replies_ask {request : Request} {next : request.Answer → PoolProgram α} {world : World} :
    PoolProgram.replies (.ask request next) world =
      request.replied ((World.perform request world).map (·.1)) ++
        match World.perform request world with
        | some (answer, after) => PoolProgram.replies (next answer) after
        | none => [] := by
  rw [PoolProgram.replies]
  cases World.perform request world with
  | none => exact (List.append_nil _).symm
  | some answered => rfl

/-- Programs that go abreast stay so when they are run in worlds that mirror each other, as long as
the servers give the same replies. -/
theorem alongside_run {params params' : ConnectionParams} {ends : α → β → Prop}
    {program : PoolProgram α} {program' : PoolProgram β} {world world' : World}
    (abreast : Abreast (Twin params params') ends program program')
    (mirror : World.Mirror world world')
    (same : Agree (PoolProgram.replies program world) (PoolProgram.replies program' world')) :
    Alongside params params' ends program program' world world' := by
  induction abreast generalizing world world' with
  | done ended => exact ⟨.done ended, .nil, mirror⟩
  | halt => exact ⟨.halted, .nil, mirror⟩
  | @ask request request' agrees next next' twin further ih =>
    -- What servers say to twins takes up as many places, so the replies to these two are the same.
    rw [replies_ask, replies_ask] at same
    obtain ⟨first, rest⟩ := agree_append same (twin.length_replied _ _)
    have paired : Twins params params' request request' := ⟨agrees, twin⟩
    rcases mirror.perform twin first.symm with ⟨waits, waits'⟩ |
        ⟨answer, after, answer', after', answered, answered', agree, later⟩
    · refine ⟨?_, ?_, ?_⟩
      · rw [World.run, World.run, Program.run, Program.run, waits, waits']
        exact .blocked
      · rw [asked, asked, waits, waits']
        exact .cons paired .nil
      · rw [World.run, World.run, Program.run, Program.run, waits, waits']
        exact mirror
    · rw [answered, answered'] at rest
      obtain ⟨outcome, asked, last⟩ := ih answer answer' agree later rest
      refine ⟨?_, ?_, ?_⟩
      · rw [World.run, World.run, Program.run, Program.run, answered, answered']
        exact outcome
      · rw [Program.asked, Program.asked, answered, answered']
        exact .cons paired asked
      · rw [World.run, World.run, Program.run, Program.run, answered, answered']
        exact last

end Seedbed

import Seedbed.Proofs.Pool.Generations

/-!
# Pools that were shut down

What becomes of a pool, and of each of its connections, once a shutdown has taken it out of the
slot, whatever else goes on in whatever order. One relation says what anything that happens does to
a pool (`Bears`); it is kept along any course of things (`bears_ensues`), and says that a connection
of a pool stays with it or is closed, that a pool that is shut stays so, and that one that is to be
closed stays due until it is. A shutdown waits for no connection (`prompt_shutdown`). It closes the
connections that wait in the pool only if none is out; if one is, they stay open until the pool's
turn comes.
-/

namespace Seedbed

open Program

/-! ## Connections that are closed for good -/

namespace Database.Server

variable {server before after : Server} {connection : Nat} {connections : List Nat}

/-- Whether no connection that was closed has been opened again, and none was forgotten. -/
structure Ages (before after : Server) : Prop where
  longer : before.opened ≤ after.opened
  lost : ∀ {connection}, connection < before.opened → before.session connection = .lost →
    after.session connection = .lost

theorem Ages.refl (server : Server) : Ages server server := ⟨Nat.le_refl _, fun _ gone => gone⟩

theorem Ages.trans {first second third : Server} (early : Ages first second)
    (late : Ages second third) : Ages first third where
  longer := Nat.le_trans early.longer late.longer
  lost known gone := late.lost (Nat.lt_of_lt_of_le known early.longer) (early.lost known gone)

/-- One session may change in any way, unless it has come to its end. -/
theorem ages_set {session : Session}
    (same : after.sessions = before.sessions.set connection session)
    (still : before.session connection = .lost → session = .lost) : Ages before after := by
  constructor
  · exact Nat.le_of_eq (by rw [opened, opened, same, List.length_set])
  · intro other known gone
    have set : after.session other = (before.setSession connection session).session other := by
      rw [Server.session, same]
      rfl
    rw [set]
    by_cases own : connection = other
    · subst own
      rw [session_setSession session known]
      exact still gone
    · rw [session_setSession_ne session own]
      exact gone

theorem ages_disconnect (server : Server) (connection : Nat) :
    Ages server (server.disconnect connection) := ages_set rfl fun _ => rfl

theorem ages_disconnects (server : Server) (connections : List Nat) :
    Ages server (connections.foldl disconnect server) := by
  induction connections generalizing server with
  | nil => exact .refl server
  | cons connection rest ih => exact (server.ages_disconnect connection).trans (ih _)

theorem session_disconnects (gone : connection ∈ connections ∨ server.session connection = .lost) :
    (connections.foldl disconnect server).session connection = .lost := by
  induction connections generalizing server with
  | nil => exact gone.resolve_left List.not_mem_nil
  | cons first rest ih =>
    refine ih ?_
    by_cases same : first = connection
    · exact .inr (same ▸ session_disconnect)
    · rcases gone with inside | lost
      · exact .inl ((List.mem_cons.mp inside).resolve_left (Ne.symm same))
      · exact .inr ((session_setSession_ne .lost same).trans lost)

theorem ages_ping (server : Server) (connection : Nat) :
    Ages server (server.ping connection).2 := by
  unfold ping
  split
  · exact .refl server
  · exact server.ages_disconnect connection

/-- A connection that is not there any more when it is wanted is closed. -/
theorem session_ping (absent : (server.ping connection).1 = false) :
    (server.ping connection).2.session connection = .lost := by
  unfold ping at absent ⊢
  split at absent
  · cases absent
  · rename_i gone
    rw [if_neg gone]
    exact session_disconnect

theorem ages_connect {params : ConnectionParams} {reply : Except Fault Nat}
    (connects : server.connect params = (reply, after)) : Ages server after := by
  unfold connect at connects
  split at connects
  · cases connects
    exact .refl server
  · cases connects
    refine ⟨?_, fun {connection} known gone => ?_⟩
    · rw [opened, opened, List.length_append]
      exact Nat.le_add_right _ _
    · have inside : connection < server.sessions.length := known
      rw [session, List.getD, List.getElem?_append_left inside]
      exact gone

theorem ages_answer (server : Server) (connection : Nat) (statement : Statement) :
    Ages server (server.answer connection statement).2 := by
  have reaction := server.answer_reaction connection statement
  generalize server.answer connection statement = answered at reaction
  have noted (failed : Bool) : Ages server (server.note connection statement failed) :=
    ⟨Nat.le_refl _, fun _ gone => gone⟩
  have carried (there : server.session connection ≠ .lost) (rows : Nat) :
      Ages server (server.carryOut connection statement rows).2 :=
    ages_set rfl fun gone => absurd gone there
  cases reaction with
  | deaf => exact .refl server
  | refused there => exact ages_set rfl fun gone => absurd gone there
  | cut => exact (noted true).trans (ages_disconnect _ connection)
  | done there heard rows => exact carried there rows
  | unheard there => exact (carried there 0).trans (ages_disconnect _ connection)

end Database.Server

theorem World.ages_recover (server : Database.Server) (connection : ConnectionId) :
    server.Ages (recover server connection).2 := by
  unfold recover
  split
  · exact .refl server
  · exact .refl server
  · exact server.ages_answer connection .rollback
  · exact server.ages_answer connection .rollback

/-! ## What happens to a pool -/

/-- Whether a connection belongs to a pool, be it that it waits or that it is out. -/
def Pool.Has (state : Pool) (connection : ConnectionId) : Prop :=
  connection ∈ state.idle ∨ connection ∈ state.out

namespace Pool.Has

variable {state : Pool} {connection other : ConnectionId} {rest : List ConnectionId}

/-- What belongs to a pool is the next to be lent, or belongs to it without that one. -/
theorem next (has : state.Has other) (waits : state.idle = connection :: rest) :
    other = connection ∨ ({ state with idle := rest } : Pool).Has other := by
  rcases has with idle | out
  · rw [waits] at idle
    exact (List.mem_cons.mp idle).imp_right .inl
  · exact .inr (.inr out)

/-- Another one that comes back is not missed. -/
theorem erase (has : state.Has other) (different : other ≠ connection) :
    ({ state with out := state.out.erase connection } : Pool).Has other :=
  has.imp_right (List.mem_erase_of_ne different).mpr

end Pool.Has

/-- Whether a pool is closed, and nothing waits in it. -/
structure Pool.Shut (state : Pool) : Prop where
  closed : state.closed = true
  empty : state.idle = []

/-- Whether a pool of a world is shut. -/
def World.Shut (world : World) (pool : PoolId) : Prop :=
  ∃ state, world.pool? pool = some state ∧ state.Shut

namespace PoolManager

variable {world before after middle later : World} {pool target : PoolId} {state : Pool}
  {connection : ConnectionId}

/-- What can happen to a pool between two moments of a server: once it is shut it stays so, and each
of its connections stays with it or is closed. -/
structure Passes (earlier later : Pool) (before after : Database.Server) : Prop where
  shut : earlier.Shut → later.Shut
  keeps : ∀ {connection}, connection < before.opened → earlier.Has connection →
    later.Has connection ∨ after.session connection = .lost

/-- What anything that happens in a world does to a pool. -/
structure Bears (pool : PoolId) (before after : World) : Prop where
  ages : before.server.Ages after.server
  passes : ∀ {state}, before.pool? pool = some state → ∃ next, after.pool? pool = some next ∧
    Passes state next before.server after.server ∧
    (pool ∈ before.closing → pool ∈ after.closing ∨ next.Shut)

namespace Bears

theorem trans (early : Bears pool before middle) (late : Bears pool middle after) :
    Bears pool before after := by
  refine ⟨early.ages.trans late.ages, fun made => ?_⟩
  obtain ⟨second, madeSecond, first, dueFirst⟩ := early.passes made
  obtain ⟨third, madeThird, next, dueNext⟩ := late.passes madeSecond
  refine ⟨third, madeThird, ⟨fun shut => next.shut (first.shut shut), fun known has => ?_⟩,
    fun due => ?_⟩
  · have stillKnown := Nat.lt_of_lt_of_le known early.ages.longer
    rcases first.keeps known has with still | gone
    · exact next.keeps stillKnown still
    · exact .inr (late.ages.lost stillKnown gone)
  · rcases dueFirst due with still | shut
    · exact dueNext still
    · exact .inr (next.shut shut)

/-- Something happens that does not touch the pool. -/
theorem aside (ages : before.server.Ages after.server)
    (same : after.pool? pool = before.pool? pool)
    (due : pool ∈ before.closing → pool ∈ after.closing) : Bears pool before after := by
  refine ⟨ages, fun {state} made => ⟨state, same.trans made, ⟨id, fun _ has => .inl has⟩, ?_⟩⟩
  exact fun before => .inl (due before)

theorem refl (world : World) : Bears pool world world := aside (.refl _) rfl id

theorem shut (bears : Bears pool before after) (shut : before.Shut pool) : after.Shut pool := by
  obtain ⟨state, made, shut⟩ := shut
  obtain ⟨next, madeNext, passes, -⟩ := bears.passes made
  exact ⟨next, madeNext, passes.shut shut⟩

theorem due (bears : Bears pool before after) (made : before.pool? pool = some state)
    (due : pool ∈ before.closing) : pool ∈ after.closing ∨ after.Shut pool := by
  obtain ⟨next, madeNext, -, comes⟩ := bears.passes made
  exact (comes due).imp_right fun shut => ⟨next, madeNext, shut⟩

/-- What a pool had is out of it or closed once the pool is shut. -/
theorem has (bears : Bears pool before after) (made : before.pool? pool = some state)
    (known : connection < before.server.opened) (has : state.Has connection)
    (shut : after.Shut pool) :
    after.Lent pool connection ∨ after.server.session connection = .lost := by
  obtain ⟨next, madeNext, passes, -⟩ := bears.passes made
  obtain ⟨_, found, shut⟩ := shut
  cases madeNext.symm.trans found
  refine (passes.keeps known has).imp_left fun still => ⟨next, madeNext, ?_⟩
  refine still.resolve_left fun waits => ?_
  rw [shut.empty] at waits
  cases waits

/-- A pool is changed, whichever it is. -/
theorem modify {server : Database.Server} {change : Pool → Pool}
    (ages : world.server.Ages server)
    (passes : ∀ {state}, world.pool? target = some state →
      Passes state (change state) world.server server) :
    Bears pool world ({ world with server }.modifyPool target change) := by
  by_cases same : target = pool
  · subst same
    refine ⟨ages, fun {state} made => ⟨change state, ?_, passes made, .inl⟩⟩
    rw [World.pool?_modifyPool]
    exact congrArg (Option.map change) made
  · exact aside ages (World.pool?_modifyPool_ne change same) id

end Bears

theorem bears_lendsNew {params : ConnectionParams} {reply : Except Database.Fault ConnectionId}
    (lends : world.LendsNew target params reply after) : Bears pool world after := by
  cases lends with
  | refused connects => exact .aside (Database.Server.ages_connect connects) rfl id
  | opened connects =>
    refine .modify (Database.Server.ages_connect connects) fun _ =>
      ⟨fun shut => ?_, fun _ has => ?_⟩
    · exact ⟨shut.closed, shut.empty⟩
    · exact .inl (has.imp_right (List.mem_cons_of_mem _))

theorem bears_lends {reply : Except Database.Fault ConnectionId}
    (lends : world.Lends target reply after) : Bears pool world after := by
  cases lends with
  | closed => exact .refl world
  | @waiting state borrowed idle made waits there =>
    refine .modify (world.server.ages_ping borrowed) fun {found} same => ?_
    cases made.symm.trans same
    refine ⟨fun shut => ?_, fun _ has => .inl ?_⟩
    · cases waits.symm.trans shut.empty
    · rcases has.next waits with rfl | still
      · exact .inr List.mem_cons_self
      · exact still.imp_right (List.mem_cons_of_mem _)
  | @replaced state borrowed idle reply after lent made waits gone =>
    refine .trans (.modify (world.server.ages_ping borrowed) fun {found} same => ?_)
      (bears_lendsNew lent)
    cases made.symm.trans same
    refine ⟨fun shut => ?_, fun _ has => ?_⟩
    · cases waits.symm.trans shut.empty
    · rcases has.next waits with rfl | still
      · exact .inr (Database.Server.session_ping gone)
      · exact .inl still
  | new lent => exact bears_lendsNew lent

/-- A connection that comes back is closed. -/
theorem bears_discard {server : Database.Server} (ages : world.server.Ages server)
    (target : PoolId) (connection : ConnectionId) :
    Bears pool world (({ world with server := server.disconnect connection }).modifyPool target
      fun state => { state with out := state.out.erase connection }) := by
  refine .modify (ages.trans (server.ages_disconnect connection)) fun _ =>
    ⟨fun shut => ⟨shut.closed, shut.empty⟩, fun {other} _ has => ?_⟩
  by_cases same : other = connection
  · exact .inr (same ▸ Database.Server.session_disconnect)
  · exact .inl (has.erase same)

/-- A connection that comes back waits again, as its pool is not closed. -/
theorem bears_shelve {server : Database.Server} (ages : world.server.Ages server)
    (connection : ConnectionId)
    (opened : ∀ {state}, world.pool? target = some state → ¬ state.closed = true) :
    Bears pool world ((({ world with server }).modifyPool target
      fun state => { state with out := state.out.erase connection }).modifyPool target
        fun state => { state with idle := state.idle ++ [connection] }) := by
  rw [World.modifyPool_modifyPool]
  refine .modify ages fun made =>
    ⟨fun shut => absurd shut.closed (opened made), fun {other} _ has => .inl ?_⟩
  by_cases same : other = connection
  · exact .inl (same ▸ List.mem_append_right _ List.mem_cons_self)
  · exact (has.erase same).imp_left (List.mem_append_left _)

theorem bears_giveBack (world : World) (connection : ConnectionId) :
    Bears pool world (world.giveBack connection) := by
  unfold World.giveBack
  cases world.lender? connection with
  | none => exact .refl world
  | some target =>
    simp only
    split
    · exact bears_discard (.refl _) target connection
    · rename_i opened
      have ages := World.ages_recover world.server connection
      split
      · refine bears_shelve ages connection fun made closed => opened ?_
        rw [World.pool?_modifyPool, made]
        exact closed
      · exact bears_discard ages target connection

/-- A pool that is closed is shut from then on. -/
theorem shut_close (made : world.pool? pool = some state) : (world.close pool).Shut pool := by
  refine ⟨{ state with closed := true, idle := [] }, ?_, rfl, rfl⟩
  have changed := world.pool?_modifyPool pool fun state =>
    { state with closed := true, idle := [] }
  rw [made] at changed
  exact changed

theorem bears_close (world : World) (target : PoolId) : Bears pool world (world.close target) := by
  refine .modify (world.server.ages_disconnects _) fun {state} made =>
    ⟨fun _ => ⟨rfl, rfl⟩, fun {connection} _ has => ?_⟩
  rcases has with waits | out
  · refine .inr (Database.Server.session_disconnects (.inl ?_))
    rw [made]
    exact waits
  · exact .inl (.inr out)

/-- Whatever is asked. -/
theorem bears_perform {request : Request} {answer : request.Answer}
    (answered : World.perform request world = some (answer, after)) : Bears pool world after := by
  cases request with
  | lock =>
    obtain ⟨-, -, rfl⟩ := World.perform_lock answered
    exact .aside (.refl _) rfl id
  | current =>
    obtain ⟨-, -, rfl⟩ := World.perform_current answered
    exact .refl _
  | take =>
    obtain ⟨-, -, rfl⟩ := World.perform_take answered
    exact .aside (.refl _) rfl id
  | install params max idle =>
    cases answered
    refine ⟨.refl _, fun {state} made => ⟨state, ?_, ⟨id, fun _ has => .inl has⟩, .inl⟩⟩
    have earlier : pool < world.pools.length := (List.getElem?_eq_some_iff.mp made).choose
    rw [World.pool?_install, if_neg (Nat.ne_of_lt earlier)]
    exact made
  | connect params => cases answered; exact .aside (Database.Server.ages_connect rfl) rfl id
  | abandon connection =>
    cases answered
    exact .aside (world.server.ages_disconnect connection) rfl id
  | send connection statement =>
    cases answered
    exact .aside (world.server.ages_answer connection statement) rfl id
  | checkOut target => exact bears_lends (World.lends_of_checkOut answered)
  | giveBack connection => cases answered; exact bears_giveBack world connection
  | close target => cases answered; exact bears_close world target
  | closeLater target =>
    cases answered
    exact .aside (.refl _) rfl (List.mem_append_left _)
  | say line => cases answered; split <;> exact .aside (.refl _) rfl id
  | unlock | outstanding | listens | elapsed => cases answered; exact .aside (.refl _) rfl id

/-! ## Any course of things -/

/-- What can happen next, whoever does it: something is asked, a pool is closed that was to be
closed, or the world stirs. What was closed is not opened again. -/
inductive Turns (world : World) : World → Prop where
  | asks {request : Request} {answer : request.Answer} {after : World}
      (answered : World.perform request world = some (answer, after)) : Turns world after
  | closes {pool : PoolId} (due : pool ∈ world.closing) :
      Turns world ({ world with closing := world.closing.erase pool }.close pool)
  | stirs {after : World} (stirs : Stirs world after) (ages : world.server.Ages after.server) :
      Turns world after

/-- What can happen, in any order. -/
def Ensues : World → World → Prop := Relation.ReflTransGen Turns

theorem bears_turns (turns : Turns world after) : Bears pool world after := by
  cases turns with
  | asks answered => exact bears_perform answered
  | stirs stirs ages =>
    refine .aside ages ?_ fun due => stirs.closing ▸ due
    rw [World.pool?, World.pool?, stirs.pools]
  | @closes target due =>
    by_cases same : target = pool
    · subst same
      have bears : Bears target { world with closing := world.closing.erase target } _ :=
        bears_close _ target
      refine ⟨bears.ages, fun {state} made => ?_⟩
      obtain ⟨next, madeNext, passes, -⟩ := bears.passes made
      refine ⟨next, madeNext, passes, fun _ => .inr ?_⟩
      obtain ⟨_, found, shut⟩ := @shut_close { world with closing := _ } target state made
      cases found.symm.trans madeNext
      exact shut
    · have left : Bears pool world { world with closing := world.closing.erase target } :=
        .aside (.refl _) rfl (List.mem_erase_of_ne (Ne.symm same)).mpr
      exact left.trans (bears_close _ target)

theorem bears_ensues (ensues : Ensues world after) : Bears pool world after := by
  induction ensues with
  | refl => exact .refl world
  | tail _ turns ih => exact ih.trans (bears_turns turns)

/-- A program is carried out, with anything going on between its requests: it has asked some
things and come to its end. -/
inductive Amid : PoolProgram α → World → List Request.Done → α → World → Prop where
  | done (value : α) (world : World) : Amid (.done value) world [] value world
  | ask {request : Request} {next : request.Answer → PoolProgram α} {answer : request.Answer}
      {world middle later last : World} {history : List Request.Done} {value : α}
      (answered : World.perform request world = some (answer, middle))
      (meanwhile : Ensues middle later) (further : Amid (next answer) later history value last) :
      Amid (.ask request next) world (⟨request, answer⟩ :: history) value last

theorem Amid.ensues {program : PoolProgram α} {history : List Request.Done} {value : α}
    (amid : Amid program world history value after) : Ensues world after := by
  induction amid with
  | done => exact .refl
  | ask answered meanwhile further ih => exact .head (.asks answered) (meanwhile.trans ih)

/-- A program that asks something is answered, and goes on later. -/
theorem Amid.inversion {request : Request} {next : request.Answer → PoolProgram α}
    {history : List Request.Done} {value : α}
    (amid : Amid (.ask request next) world history value after) :
    ∃ answer middle later rest, World.perform request world = some (answer, middle) ∧
      Ensues middle later ∧ Amid (next answer) later rest value after ∧
      history = ⟨request, answer⟩ :: rest := by
  cases amid with
  | ask answered meanwhile further => exact ⟨_, _, _, _, answered, meanwhile, further, rfl⟩

/-! ## Shutdowns -/

/-- How a shutdown that finds a pool comes to its end, with anything going on meanwhile. -/
inductive Leaves (world : World) (pool : PoolId) : List Request.Done → World → Prop where
  /-- None of its connections was out, and it was closed. -/
  | closed {middle last : World} (meanwhile : Ensues { world with slot := none } middle)
      (closed : Ensues (middle.close pool) last) :
      Leaves world pool [⟨.take, some pool⟩, ⟨.outstanding pool, 0⟩, ⟨.close pool, ()⟩] last
  /-- Some were out, and it is to be closed. -/
  | due {middle last : World} {count : Nat} (out : count ≠ 0)
      (meanwhile : Ensues { world with slot := none } middle)
      (due : Ensues { middle with closing := middle.closing ++ [pool] } last) :
      Leaves world pool [⟨.take, some pool⟩, ⟨.outstanding pool, count⟩, ⟨.closeLater pool, ()⟩]
        last

theorem leaves_of_amid {history : List Request.Done} (slot : world.slot = some pool)
    (amid : Amid shutdown world history () after) : Leaves world pool history after := by
  obtain ⟨found, _, first, _, answered, early, further, rfl⟩ := amid.inversion
  obtain ⟨-, rfl, rfl⟩ := World.perform_take answered
  rw [slot] at further ⊢
  obtain ⟨_, _, second, _, answered, between, retires, rfl⟩ := further.inversion
  cases answered
  change Amid (retire pool (first.outstanding pool)) second _ () after at retires
  generalize first.outstanding pool = count at retires ⊢
  by_cases none : count = 0
  · rw [retire, if_pos none] at retires
    obtain ⟨_, _, third, _, answered, late, ends, rfl⟩ := retires.inversion
    cases answered
    cases ends
    subst none
    exact .closed (early.trans between) late
  · rw [retire, if_neg none] at retires
    obtain ⟨_, _, third, _, answered, late, ends, rfl⟩ := retires.inversion
    cases answered
    cases ends
    exact .due none (early.trans between) late

/-- What is true of a pool at any time after a shutdown has taken it out of the slot, where it was
in some state, and has come to its end. -/
structure Aftermath (pool : PoolId) (state : Pool) (history : List Request.Done) (later : World) :
    Prop where
  /-- If none of its connections was out when the shutdown asked for that, the pool is shut. -/
  closed : (⟨.outstanding pool, (0 : Nat)⟩ : Request.Done) ∈ history → later.Shut pool
  /-- In any case it is shut, or is still to be closed. -/
  due : later.Shut pool ∨ pool ∈ later.closing
  /-- Whenever that is done, it is shut. -/
  comes : pool ∈ later.closing →
    ({ later with closing := later.closing.erase pool }.close pool).Shut pool
  /-- Once it is shut, whatever it had is closed, unless that is out. -/
  gone : later.Shut pool → ∀ {connection}, state.Has connection →
    later.Lent pool connection ∨ later.server.session connection = .lost
  /-- What is out then is closed when it is given back. -/
  released : later.Shut pool → ∀ {connection}, later.lender? connection = some pool →
    (later.giveBack connection).server.session connection = .lost

theorem session_giveBack (shut : world.Shut pool) (lender : world.lender? connection = some pool) :
    (world.giveBack connection).server.session connection = .lost := by
  obtain ⟨state, made, shut⟩ := shut
  have closed : ((world.modifyPool pool fun state =>
      { state with out := state.out.erase connection }).pool? pool).any Pool.closed := by
    rw [World.pool?_modifyPool, made]
    exact shut.closed
  unfold World.giveBack
  simp only [lender, closed, ↓reduceIte]
  exact Database.Server.session_disconnect

theorem aftermath {history : List Request.Done} (slot : world.slot = some pool)
    (made : world.pool? pool = some state)
    (known : ∀ {connection}, state.Has connection → connection < world.server.opened)
    (amid : Amid shutdown world history () after) (ensues : Ensues after later) :
    Aftermath pool state history later := by
  have whole : Bears pool world later := bears_ensues (amid.ensues.trans ensues)
  have leaves := leaves_of_amid slot amid
  have still {middle : World} (meanwhile : Ensues { world with slot := none } middle) :
      ∃ next, middle.pool? pool = some next := by
    obtain ⟨next, there, -⟩ := (bears_ensues meanwhile).passes made
    exact ⟨next, there⟩
  refine ⟨fun none => ?_, ?_, fun _ => ?_, fun shut _ has => whole.has made (known has) has shut,
    fun shut _ lender => session_giveBack shut lender⟩
  · cases leaves with
    | closed meanwhile closed =>
      obtain ⟨next, there⟩ := still meanwhile
      exact (bears_ensues (closed.trans ensues)).shut (shut_close there)
    | due out => simp [Ne.symm out] at none
  · cases leaves with
    | closed meanwhile closed =>
      obtain ⟨next, there⟩ := still meanwhile
      exact .inl ((bears_ensues (closed.trans ensues)).shut (shut_close there))
    | due out meanwhile due =>
      obtain ⟨next, there⟩ := still meanwhile
      have bears : Bears pool _ later := bears_ensues (due.trans ensues)
      exact (bears.due there (List.mem_append_right _ List.mem_cons_self)).symm
  · obtain ⟨next, there, -⟩ := whole.passes made
    exact @shut_close { later with closing := _ } pool next there

namespace Hall

end Hall

end PoolManager
end Seedbed

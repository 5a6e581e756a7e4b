import Seedbed.Proofs.Database.Transaction
import Seedbed.Proofs.Pool.Lending
import Seedbed.Proofs.Pool.Making

/-!
# Managing a pool alone

What a manager's operations do while nothing else goes on. None of them makes the server keep a row,
and a pool that was just made lends only connections that are outside of a transaction
(`returns_acquire`).
-/

namespace Seedbed

open Program Database

namespace World

open Database.Server (Quiet)

theorem quiet_disconnect {server : Server} {world : World} (quiet : Quiet server world.server)
    (connections : List ConnectionId) : Quiet server (world.disconnect connections).server := by
  suffices closes : ∀ last, Quiet server last →
      Quiet server (connections.foldl Server.disconnect last) from closes world.server quiet
  intro last quiet
  induction connections generalizing last with
  | nil => exact quiet
  | cons connection rest ih => exact ih _ (quiet.trans (last.quiet_disconnect connection))

theorem LendsNew.quiet {world after : World} {pool : PoolId} {params : ConnectionParams}
    {reply : Except Fault ConnectionId} (lends : LendsNew world pool params reply after) :
    Quiet world.server after.server := by
  have quiet := world.server.quiet_connect params
  cases lends with
  | refused connects => rw [connects] at quiet; exact quiet
  | opened connects => rw [connects] at quiet; exact quiet

theorem Lends.quiet {world after : World} {pool : PoolId} {reply : Except Fault ConnectionId}
    (lends : Lends world pool reply after) : Quiet world.server after.server := by
  cases lends with
  | closed => exact .refl world.server
  | waiting made waits there => exact world.server.quiet_ping _
  | replaced lent => exact (world.server.quiet_ping _).trans lent.quiet
  | new lent => exact lent.quiet

theorem quiet_recover (server : Server) (connection : ConnectionId) :
    Quiet server (recover server connection).2 := by
  unfold recover
  cases server.session connection with
  | idle => exact .refl server
  | lost => exact .refl server
  | transaction pending => exact server.quiet_answer_rollback connection
  | spoilt => exact server.quiet_answer_rollback connection

theorem quiet_giveBack (world : World) (connection : ConnectionId) :
    Quiet world.server (world.giveBack connection).server := by
  unfold giveBack
  cases world.lender? connection with
  | none => exact .refl world.server
  | some pool =>
    simp only
    split
    · exact quiet_disconnect (.refl world.server) [connection]
    · have recovered := quiet_recover world.server connection
      split
      · exact recovered
      · exact quiet_disconnect recovered [connection]

theorem quiet_close (world : World) (pool : PoolId) :
    Quiet world.server (world.close pool).server := quiet_disconnect (.refl world.server) _

/-- A request that is quiet by itself leaves a server quiet. -/
theorem quiet_perform {request : Request} {world after : World} {answer : request.Answer}
    (quiet : request.Quiet) (answered : perform request world = some (answer, after)) :
    Quiet world.server after.server := by
  cases request with
  | send connection statement =>
    cases answered
    rcases quiet with rfl | rfl
    · exact world.server.quiet_answer_begin connection
    · exact world.server.quiet_answer_rollback connection
  | checkOut pool => exact (lends_of_checkOut answered).quiet
  | connect params => cases answered; exact world.server.quiet_connect params
  | abandon connection => cases answered; exact quiet_disconnect (.refl world.server) [connection]
  | giveBack connection => cases answered; exact quiet_giveBack world connection
  | close pool => cases answered; exact quiet_close world pool
  | lock | current | take =>
    obtain ⟨-, -, rfl⟩ := seen_unlocked answered
    exact .refl _
  | say line => cases answered; split <;> exact .refl world.server
  | unlock | install | outstanding | closeLater | listens | elapsed =>
    cases answered
    exact .refl world.server

/-- A program that asks nothing but what is quiet leaves a server quiet. -/
theorem quiet_run {program : PoolProgram α} (asks : program.Asks Request.Quiet) (world : World) :
    Quiet world.server (program.run perform world).2.server :=
  run_keeps (fun before after => Quiet before.server after.server) (fun world => .refl world.server)
    .trans quiet_perform asks world

theorem quiet_closeNext (world : World) : Quiet world.server world.closeNext.server := by
  unfold closeNext
  cases world.closing with
  | nil => exact .refl world.server
  | cons pool closing => exact quiet_close { world with closing } pool

/-- Closing all pools that are to be closed leaves a server quiet. -/
theorem quiet_closeAll (world : World) : Quiet world.server world.closeAll.server := by
  suffices closes : ∀ (left : List PoolId) (last : World), Quiet world.server last.server →
      Quiet world.server (left.foldl (fun world _ => world.closeNext) last).server from
    closes world.closing world (.refl world.server)
  intro left
  induction left with
  | nil => exact fun last quiet => quiet
  | cons pool rest ih =>
    intro last quiet
    exact ih _ (quiet.trans (quiet_closeNext last))

end World

/-! ## What the operations ask -/

namespace PoolManager

theorem asks_fill (eager : Bool) (min max : Nat) (params : ConnectionParams)
    (found : Option PoolId) : (fill eager min max params found).Asks Request.Quiet := by
  cases found with
  | some pool => exact trivial
  | none =>
    unfold fill
    cases boundsFailure? min max with
    | some failure => exact trivial
    | none =>
      refine Asks.bind ((asks_firstConnections eager params min).mono Request.Opens.quiet) ?_
      intro reply
      cases reply with
      | error fault => exact trivial
      | ok idle => exact And.intro trivial fun _ => trivial

theorem asks_make (eager : Bool) (min max : Nat) (params : ConnectionParams) :
    (make eager min max params).Asks Request.Quiet :=
  And.intro trivial fun found =>
    (asks_fill eager min max params found).bind fun _ => And.intro trivial fun _ => trivial

theorem asks_acquire : acquire.Asks Request.Quiet := by
  refine And.intro trivial fun found => ?_
  cases found with
  | none => exact trivial
  | some pool => exact And.intro trivial fun _ => trivial

theorem asks_retire (pool : PoolId) (outstanding : Nat) :
    (retire pool outstanding).Asks Request.Quiet := by
  unfold retire
  split <;> exact And.intro trivial fun _ => trivial

theorem asks_shutdown : shutdown.Asks Request.Quiet := by
  refine And.intro trivial fun found => ?_
  cases found with
  | none => exact trivial
  | some pool => exact And.intro trivial fun outstanding => asks_retire pool outstanding

/-! ## What a new pool lends -/

/-- Some more connections are outside of a transaction, unless one cannot be opened. -/
theorem returns_connectMany (params : ConnectionParams) (count : Nat) (world : World) :
    Returns World.perform (connectMany params count) world fun reply after =>
      ∀ connections, reply = .ok connections →
        world.server.sessions <+: after.server.sessions ∧
          ∀ connection ∈ connections, after.server.session connection = .idle := by
  induction count generalizing world with
  | zero =>
    refine returns_pure fun connections same => ?_
    cases same
    exact ⟨List.prefix_rfl, nofun⟩
  | succ count ih =>
    refine returns_request fun reply middle answered => ?_
    cases reply with
    | error fault => exact returns_pure nofun
    | ok connection =>
      obtain ⟨idle, longer⟩ := Server.session_connect (World.connects_of_perform answered).1
      refine returns_bind ((ih middle).mono fun rest after others => ?_)
      cases rest with
      | error fault => exact returns_request fun _ _ _ => returns_pure nofun
      | ok connections =>
        obtain ⟨longest, restIdle⟩ := others connections rfl
        refine returns_pure fun all same => ?_
        cases same
        refine ⟨longer.trans longest, List.forall_mem_cons.mpr ⟨?_, restIdle⟩⟩
        rw [Server.session_of_isPrefix longest (by rw [idle]; nofun), idle]

theorem returns_firstConnections (eager : Bool) (params : ConnectionParams) (count : Nat)
    (world : World) :
    Returns World.perform (firstConnections eager params count) world fun reply after =>
      ∀ connections, reply = .ok connections →
        ∀ connection ∈ connections, after.server.session connection = .idle := by
  cases eager with
  | false =>
    refine returns_pure fun connections same => ?_
    cases same
    nofun
  | true =>
    refine returns_bind fun probed _ => ?_
    cases probed with
    | error fault => exact returns_pure nofun
    | ok =>
      exact (returns_connectMany params count _).mono fun reply after all connections same =>
        (all connections same).2

/-- Whether the pool in the slot has only idle connections that are outside of a transaction. -/
def Clean (world : World) : Prop :=
  ∃ pool state, world.slot = some pool ∧ world.pool? pool = some state ∧
    ∀ connection ∈ state.idle, world.server.session connection = .idle

/-- A pool that was just made is clean. -/
theorem returns_make (eager : Bool) (min max : Nat) (params : ConnectionParams) (world : World) :
    Returns World.perform (make eager min max params) world fun made after =>
      made = .ok () → Clean after := by
  refine returns_request fun found locked answered => returns_bind ?_
  suffices filled : Returns World.perform (fill eager min max params found) locked
      fun made after => made = .ok () → Clean after by
    refine filled.mono fun made after clean => returns_request fun _ last unlocked => ?_
    refine returns_pure fun same => ?_
    cases unlocked
    exact clean same
  cases found with
  | some pool => exact returns_pure nofun
  | none =>
    unfold fill
    cases boundsFailure? min max with
    | some failure => exact returns_pure nofun
    | none =>
      refine returns_bind ((returns_firstConnections eager params min locked).mono ?_)
      intro reply middle idle
      cases reply with
      | error fault => exact returns_pure nofun
      | ok connections =>
        refine returns_request fun pool after installed => returns_pure fun _ => ?_
        cases installed
        exact ⟨middle.pools.length, { params, max, idle := connections }, rfl,
          List.getElem?_concat_length .., idle connections rfl⟩

/-- A new connection is outside of a transaction. -/
theorem session_of_lendsNew {world after : World} {pool : PoolId} {params : ConnectionParams}
    {connection : ConnectionId} (lends : world.LendsNew pool params (.ok connection) after) :
    after.server.session connection = .idle := by
  cases lends with
  | opened connects => exact (Server.session_connect connects).1

/-- A clean pool lends a connection that is outside of a transaction. -/
theorem session_of_lends {world after : World} {pool : PoolId} {state : Pool}
    {connection : ConnectionId} (made : world.pool? pool = some state)
    (idle : ∀ connection ∈ state.idle, world.server.session connection = .idle)
    (lends : world.Lends pool (.ok connection) after) :
    after.server.session connection = .idle := by
  cases lends with
  | waiting madeToo waits there =>
    cases made.symm.trans madeToo
    show (world.server.ping connection).2.session connection = .idle
    rw [Server.ping_eq_of_there there]
    exact idle connection (by rw [waits]; exact List.mem_cons_self)
  | replaced lent => exact session_of_lendsNew lent
  | new lent => exact session_of_lendsNew lent

theorem returns_acquire {world : World} (clean : Clean world) :
    Returns World.perform acquire world fun lent after =>
      ∀ connection, lent = .ok connection → after.server.session connection = .idle := by
  obtain ⟨pool, state, slot, made, idle⟩ := clean
  refine returns_request fun found same answered => ?_
  obtain ⟨-, rfl, rfl⟩ := World.perform_current answered
  rw [slot]
  refine returns_request fun lent after checkedOut => returns_pure fun connection answer => ?_
  cases lent with
  | error fault => cases answer
  | ok borrowed =>
    cases answer
    exact session_of_lends made idle (World.lends_of_checkOut checkedOut)

end PoolManager
end Seedbed

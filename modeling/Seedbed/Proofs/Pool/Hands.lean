import Seedbed.Proofs.Database.Transaction
import Seedbed.Proofs.Pool.Lending
import Seedbed.Proofs.Pool.Places

/-!
# Connections in hands

Whoever is lent a connection by a pool has it in hand until it is given back; nobody else has it
meanwhile (`Held`). What each request that moves connections does to the places that they are in,
and to what is out of the pools: connections are opened and put into a new pool (`Sorted.connect`,
`Sorted.install`), one is lent (`Lends.loan`) and taken back (`takesBack_giveBack`), and those that
wait in a pool are closed with it (`Sorted.close`).
-/

namespace Seedbed

open Function

/-! ## How many connections were opened -/

namespace Database.Server

variable {server after : Server} {connection : Nat}

theorem opened_disconnect : (server.disconnect connection).opened = server.opened :=
  List.length_set ..

theorem opened_disconnects (connections : List Nat) :
    (connections.foldl disconnect server).opened = server.opened := by
  induction connections generalizing server with
  | nil => rfl
  | cons connection rest ih => exact ih.trans opened_disconnect

theorem opened_ping : (server.ping connection).2.opened = server.opened := by
  unfold ping
  split
  · rfl
  · exact opened_disconnect

theorem opened_answer (statement : Statement) :
    (server.answer connection statement).2.opened = server.opened := by
  have reaction := server.answer_reaction connection statement
  generalize server.answer connection statement = answered at reaction
  cases reaction with
  | deaf => rfl
  | refused => exact List.length_set ..
  | cut => exact List.length_set ..
  | done => exact List.length_set ..
  | unheard => exact opened_disconnect.trans (List.length_set ..)

/-- A new connection has the next number. -/
theorem opened_connect {params : ConnectionParams} {reply : Except Fault Nat}
    (connects : server.connect params = (reply, after)) :
    (after.opened = server.opened ∧ ∃ fault, reply = .error fault) ∨
      after.opened = server.opened + 1 ∧ reply = .ok server.opened := by
  unfold connect at connects
  split at connects
  · cases connects
    exact .inl ⟨rfl, _, rfl⟩
  · cases connects
    exact .inr ⟨List.length_append .., rfl⟩

end Database.Server

namespace World

variable {world after : World} {pool other : PoolId} {state : Pool} {connection : ConnectionId}
  {opened hands : Nat → List ConnectionId} {who : Nat} {params : ConnectionParams}
  {reply : Except Database.Fault ConnectionId}

theorem opened_recover (server : Database.Server) (connection : ConnectionId) :
    (recover server connection).2.opened = server.opened := by
  unfold recover
  split
  · rfl
  · rfl
  · exact Database.Server.opened_answer .rollback
  · exact Database.Server.opened_answer .rollback

/-! ## What is out of the pools -/

theorem lent_modifyPool (made : world.pool? pool = some state) (change : Pool → Pool) :
    (world.modifyPool pool change).Lent other connection ↔
      (if other = pool then connection ∈ (change state).out else world.Lent other connection) := by
  split
  · rename_i same
    rw [same, Lent, pool?_modifyPool, made]
    constructor
    · rintro ⟨_, same, out⟩
      exact Option.some.inj same ▸ out
    · exact fun out => ⟨_, rfl, out⟩
  · rename_i different
    rw [Lent, pool?_modifyPool_ne change (Ne.symm different)]
    rfl

theorem Lent.modifyPool_idle (lent : world.Lent other connection) {change : Pool → Pool}
    (same : ∀ state, (change state).out = state.out) :
    (world.modifyPool pool change).Lent other connection := by
  obtain ⟨state, made, out⟩ := lent
  by_cases own : other = pool
  · exact ⟨change state, by rw [own, pool?_modifyPool, ← own, made]; rfl, same state ▸ out⟩
  · exact ⟨state, by rw [pool?_modifyPool_ne change (Ne.symm own), made], out⟩

theorem modifyPool_modifyPool (first second : Pool → Pool) :
    (world.modifyPool pool first).modifyPool pool second =
      world.modifyPool pool (second ∘ first) := by
  rw [modifyPool, modifyPool, modifyPool, List.modify_modify_eq]

theorem modifyPool_of_none (missing : world.pool? pool = none) (change : Pool → Pool) :
    world.modifyPool pool change = world := by
  rw [modifyPool, List.modify_eq_self (List.getElem?_eq_none_iff.mp missing)]

/-- A pool that was just made is the last one. -/
theorem pool?_install (world : World) (params : ConnectionParams) (max : Nat)
    (idle : List ConnectionId) :
    (world.install params max idle).pool? pool =
      if pool = world.pools.length then some { params, max, idle } else world.pool? pool := by
  split
  · rename_i same
    rw [same]
    exact List.getElem?_concat_length ..
  · rename_i different
    show (world.pools ++ [_])[pool]? = world.pools[pool]?
    rcases Nat.lt_or_gt_of_ne different with before | beyond
    · exact List.getElem?_append_left before
    · rw [List.getElem?_eq_none (Nat.le_of_lt beyond), List.getElem?_eq_none]
      rw [List.length_append]
      exact beyond

theorem lent_install (world : World) (params : ConnectionParams) (max : Nat)
    (idle : List ConnectionId) (lent : world.Lent pool connection) :
    (world.install params max idle).Lent pool connection := by
  obtain ⟨state, made, out⟩ := lent
  have different : pool ≠ world.pools.length :=
    Nat.ne_of_lt (List.getElem?_eq_some_iff.mp made).choose
  refine ⟨state, ?_, out⟩
  rw [pool?_install, if_neg different, made]

/-! ## Opening connections -/

namespace Sorted

theorem server (sorted : world.Sorted opened) {server : Database.Server}
    (longer : world.server.opened ≤ server.opened) : { world with server }.Sorted opened :=
  sorted.congr rfl longer

/-- A connection that was just opened is in no place. -/
theorem connects (sorted : world.Sorted opened) {server : Database.Server}
    (connects : world.server.connect params = (reply, server)) :
    { world with server }.Sorted opened ∧
      ∀ connection, reply = .ok connection → { world with server }.Loose opened connection := by
  rcases Database.Server.opened_connect connects with ⟨same, fault, rfl⟩ | ⟨longer, rfl⟩
  · exact ⟨sorted.server (Nat.le_of_eq same.symm), nofun⟩
  · refine ⟨sorted.server (by rw [longer]; exact Nat.le_succ _), fun connection same => ?_⟩
    cases same
    refine ⟨fun spot inside => Nat.lt_irrefl _ (sorted.known spot _ inside), ?_⟩
    show world.server.opened < server.opened
    rw [longer]
    exact Nat.lt_succ_self _

/-- A caller gets a connection that is in no place, for a pool that is being made. -/
theorem hold (sorted : world.Sorted opened) (loose : world.Loose opened connection) :
    world.Sorted (update opened who (opened who ++ [connection])) := by
  have parted : Parted (world.places (update opened who (opened who ++ [connection]))) := by
    rw [places_opened]
    exact sorted.parted.add loose.nowhere (List.perm_append_singleton ..)
  refine ⟨parted, ?_, sorted.room⟩
  rw [places_opened]
  refine forall_mem_update sorted.known fun other inside => ?_
  rcases List.mem_append.mp inside with before | added
  · exact sorted.known (.opened who) other before
  · rw [List.mem_singleton.mp added]
    exact loose.there

/-- The connections that a caller has opened are put into a new pool. -/
theorem install (sorted : world.Sorted opened) {max : Nat} {idle : List ConnectionId}
    (own : idle.Sublist (opened who)) (few : idle.length ≤ max) :
    (world.install params max idle).Sorted (update opened who []) := by
  have missing : world.pool? world.pools.length = none := List.getElem?_eq_none (Nat.le_refl _)
  have changed : (world.install params max idle).places (update opened who []) =
      update (update (world.places opened) (.opened who) []) (.idle world.pools.length) idle := by
    rw [← places_opened]
    funext spot
    cases spot with
    | opened other => rfl
    | idle pool =>
      by_cases same : pool = world.pools.length
      · rw [same, update_self, places, pool?_install, if_pos rfl]
        rfl
      · rw [update_of_ne (same ∘ Spot.idle.inj), places, places, pool?_install, if_neg same]
    | out pool =>
      rw [update_of_ne Spot.noConfusion, places, places, pool?_install]
      split
      · rename_i same
        rw [same, missing]
        rfl
      · rfl
  -- The connections leave the caller before they come to the pool.
  have left (connection : ConnectionId) (inside : connection ∈ idle) :=
    @Parted.gone _ _ _ (.opened who) _ _ _ sorted.parted (own.subset inside) List.not_mem_nil
  refine ⟨?_, ?_, fun {pool state} made => ?_⟩
  · rw [changed]
    refine (sorted.parted.narrow (List.nil_sublist _)).update ?_ fun connection inside =>
      .inr (left connection inside)
    exact (sorted.parted.nodup (.opened who)).sublist own
  · rw [changed]
    refine forall_mem_update (forall_mem_update sorted.known (List.forall_mem_nil _)) fun connection inside => ?_
    exact sorted.known (.opened who) connection (own.subset inside)
  · rw [pool?_install] at made
    split at made
    · cases made
      exact few
    · exact sorted.room made

/-- The connections that wait in a pool are closed with it. -/
theorem close (sorted : world.Sorted opened) (pool : PoolId) :
    (world.close pool).Sorted opened := by
  suffices emptied : (world.modifyPool pool fun state =>
      { state with closed := true, idle := [] }).Sorted opened from
    emptied.server (Nat.le_of_eq (Database.Server.opened_disconnects _).symm)
  cases made : world.pool? pool with
  | none => rwa [modifyPool_of_none made]
  | some state => exact sorted.fewer made (List.nil_sublist _) (.refl _) rfl

end Sorted

/-! ## Lending a connection -/

/-- What a loan leaves: all is in order, what was out of the pools still is, and so is, newly, the
connection that was lent. -/
structure Loan (opened : Nat → List ConnectionId) (world : World) (pool : PoolId)
    (reply : Except Database.Fault ConnectionId) (after : World) : Prop where
  sorted : after.Sorted opened
  keeps : ∀ {pool connection}, world.Lent pool connection → after.Lent pool connection
  gives : ∀ {connection}, reply = .ok connection →
    after.Lent pool connection ∧ ∀ other, ¬ world.Lent other connection

theorem Sorted.loan (sorted : world.Sorted opened) (roomy : world.Roomy pool state)
    (loose : world.Loose opened connection) :
    Loan opened world pool (.ok connection)
      (world.modifyPool pool fun state => { state with out := connection :: state.out }) where
  sorted := sorted.lend roomy loose
  keeps {other borrowed} lent := by
    rw [lent_modifyPool roomy.made]
    split
    · rename_i same
      obtain ⟨found, madeToo, out⟩ := lent
      rw [same, roomy.made] at madeToo
      cases madeToo
      exact List.mem_cons_of_mem _ out
    · exact lent
  gives {borrowed} same := by
    cases same
    refine ⟨?_, fun other lent => loose.nowhere _ (lent_iff.mp lent)⟩
    rw [lent_modifyPool roomy.made, if_pos rfl]
    exact List.mem_cons_self

/-- A loan from a world in which there was out what had been out before. -/
theorem Loan.of_keeps {middle : World} (loan : Loan opened middle pool reply after)
    (keeps : ∀ {pool connection}, world.Lent pool connection → middle.Lent pool connection) :
    Loan opened world pool reply after where
  sorted := loan.sorted
  keeps lent := loan.keeps (keeps lent)
  gives same :=
    have ⟨lent, fresh⟩ := loan.gives same
    ⟨lent, fun other before => fresh other (keeps before)⟩

theorem LendsNew.loan (sorted : world.Sorted opened) (roomy : world.Roomy pool state)
    (lends : LendsNew world pool params reply after) : Loan opened world pool reply after := by
  cases lends with
  | refused connects => exact ⟨(sorted.connects connects).1, id, nofun⟩
  | opened connects =>
    obtain ⟨later, loose⟩ := sorted.connects connects
    exact (later.loan ⟨roomy.made, roomy.room⟩ (loose _ rfl)).of_keeps id

theorem Lends.loan (sorted : world.Sorted opened) (lends : world.Lends pool reply after) :
    Loan opened world pool reply after := by
  have pinged (connection : ConnectionId) :
      { world with server := (world.server.ping connection).2 }.Sorted opened :=
    sorted.server (Nat.le_of_eq Database.Server.opened_ping.symm)
  cases lends with
  | closed => exact ⟨sorted, id, nofun⟩
  | new lent made waits room =>
    refine lent.loan sorted ⟨made, ?_⟩
    rw [waits, List.length_nil, Nat.zero_add]
    exact room
  | @waiting state connection idle made waits there =>
    obtain ⟨later, roomy, loose⟩ := (pinged connection).unshelve made waits
    have loan := later.loan roomy loose
    rw [modifyPool_modifyPool] at loan
    exact loan.of_keeps fun lent => lent.modifyPool_idle fun _ => rfl
  | @replaced state connection idle reply after lent made waits =>
    obtain ⟨later, roomy, loose⟩ := (pinged connection).unshelve made waits
    exact (lent.loan later roomy).of_keeps fun lent => lent.modifyPool_idle fun _ => rfl

/-! ## Taking a connection back -/

/-- What can happen to a connection that a pool gets back. -/
inductive TakesBack (world : World) (pool : PoolId) (connection : ConnectionId) : World → Prop where
  /-- It is closed. -/
  | closed {server : Database.Server} (same : server.opened = world.server.opened) :
      TakesBack world pool connection
        { world.modifyPool pool fun state =>
          { state with out := state.out.erase connection } with server }
  /-- It waits in its pool again. -/
  | waits {server : Database.Server} (same : server.opened = world.server.opened) :
      TakesBack world pool connection
        ({ world.modifyPool pool fun state =>
          { state with out := state.out.erase connection } with server }.modifyPool pool fun state =>
            { state with idle := state.idle ++ [connection] })

/-- The pool that has lent a connection gets it back. -/
theorem takesBack_giveBack (lender : world.lender? connection = some pool) :
    TakesBack world pool connection (world.giveBack connection) := by
  unfold giveBack
  simp only [lender]
  split
  · exact .closed Database.Server.opened_disconnect
  · have recovered := opened_recover world.server connection
    split
    · exact .waits recovered
    · exact .closed (Database.Server.opened_disconnect.trans recovered)

/-- The pool that has lent a connection is found. -/
theorem Sorted.lender (sorted : world.Sorted opened) (lent : world.Lent pool connection) :
    world.lender? connection = some pool := by
  obtain ⟨state, made, out⟩ := lent
  cases found : world.lender? connection with
  | none =>
    have nobody := List.findIdx?_eq_none_iff.mp found state (List.mem_of_getElem? made)
    rw [List.contains_iff_mem.mpr out] at nobody
    cases nobody
  | some other =>
    obtain ⟨inside, has, -⟩ := List.findIdx?_eq_some_iff_getElem.mp found
    have too : world.Lent other connection :=
      ⟨_, List.getElem?_eq_getElem inside, List.contains_iff_mem.mp has⟩
    rw [sorted.lent_unique ⟨state, made, out⟩ too]

theorem TakesBack.sorted (takes : TakesBack world pool connection after)
    (sorted : world.Sorted opened) (lent : world.Lent pool connection) : after.Sorted opened := by
  obtain ⟨state, made, out⟩ := lent
  obtain ⟨later, roomy, loose⟩ := sorted.takeBack made out
  cases takes with
  | closed same => exact later.server (Nat.le_of_eq same.symm)
  | waits same =>
    refine (later.server (Nat.le_of_eq same.symm)).shelve ⟨roomy.made, roomy.room⟩ ?_
    exact ⟨loose.nowhere, Nat.lt_of_lt_of_eq loose.there same.symm⟩

/-- What else is out stays out. -/
theorem TakesBack.keeps (takes : TakesBack world pool connection after)
    {borrowed : ConnectionId} (different : borrowed ≠ connection)
    (lent : world.Lent other borrowed) : after.Lent other borrowed := by
  have still : (world.modifyPool pool fun state =>
      { state with out := state.out.erase connection }).Lent other borrowed := by
    obtain ⟨state, made, out⟩ := lent
    by_cases own : other = pool
    · refine ⟨_, by rw [own, pool?_modifyPool, ← own, made]; rfl, ?_⟩
      exact (List.mem_erase_of_ne different).mpr out
    · exact ⟨state, by rw [pool?_modifyPool_ne _ (Ne.symm own), made], out⟩
  cases takes with
  | closed same => exact still
  | waits same => exact Lent.modifyPool_idle still fun _ => rfl

/-- Other pools are left alone, and so is the slot. -/
theorem TakesBack.others (takes : TakesBack world pool connection after) :
    after.slot = world.slot ∧ after.locked = world.locked ∧
      ∀ other, other ≠ pool → after.pool? other = world.pool? other := by
  cases takes with
  | closed same => exact ⟨rfl, rfl, fun other different => pool?_modifyPool_ne _ different.symm⟩
  | waits same =>
    refine ⟨rfl, rfl, fun other different => ?_⟩
    rw [pool?_modifyPool_ne _ different.symm]
    exact pool?_modifyPool_ne _ different.symm

/-! ## Who has what in hand -/

/-- Whether those who have connections in their hands have each to themselves, out of some pool. -/
structure Held (world : World) (hands : Nat → List ConnectionId) : Prop where
  parted : Parted hands
  lent : ∀ who, ∀ connection ∈ hands who, ∃ pool, world.Lent pool connection

namespace Held

theorem keep (held : world.Held hands)
    (keeps : ∀ {pool connection}, world.Lent pool connection → after.Lent pool connection) :
    after.Held hands where
  parted := held.parted
  lent who connection inside := (held.lent who connection inside).imp fun _ => keeps

/-- Someone has nothing in hand but what was there before. -/
theorem regroup {connections : List ConnectionId} (held : world.Held hands)
    (nodup : connections.Nodup) (own : ∀ connection ∈ connections, connection ∈ hands who) :
    world.Held (update hands who connections) where
  parted := held.parted.update nodup fun connection inside => .inl (own connection inside)
  lent := forall_mem_update held.lent fun connection inside =>
    held.lent who connection (own connection inside)

theorem release {connections : List ConnectionId} (held : world.Held hands)
    (fewer : connections.Sublist (hands who)) : world.Held (update hands who connections) :=
  held.regroup ((held.parted.nodup who).sublist fewer) fun _ inside => fewer.subset inside

/-- Someone gets a connection that nobody has in hand. -/
theorem receive {connections : List ConnectionId} (held : world.Held hands)
    (lent : world.Lent pool connection) (nobody : ∀ other, connection ∉ hands other)
    (more : connections.Perm (connection :: hands who)) :
    world.Held (update hands who connections) where
  parted := held.parted.add nobody more
  lent := forall_mem_update held.lent fun other inside => by
    rcases List.mem_cons.mp (more.mem_iff.mp inside) with rfl | before
    · exact ⟨pool, lent⟩
    · exact held.lent who other before

theorem loan (held : world.Held hands) (loan : Loan opened world pool (.ok connection) after) :
    after.Held (update hands who (connection :: hands who)) := by
  obtain ⟨lent, fresh⟩ := loan.gives rfl
  refine (held.keep loan.keeps).receive lent (fun other inside => ?_) (.refl _)
  obtain ⟨pool, before⟩ := held.lent other connection inside
  exact fresh pool before

theorem giveBack (held : world.Held hands) (inside : connection ∈ hands who)
    (takes : TakesBack world pool connection after) :
    after.Held (update hands who ((hands who).erase connection)) := by
  have left : world.Held (update hands who ((hands who).erase connection)) :=
    held.release List.erase_sublist
  refine ⟨left.parted, fun other borrowed still => ?_⟩
  have gone := held.parted.gone inside (held.parted.nodup who).not_mem_erase other
  have different : borrowed ≠ connection := fun same => gone (same ▸ still)
  exact (left.lent other borrowed still).imp fun _ => takes.keeps different

end Held
end World
end Seedbed

import Mathlib.Data.List.Basic
import Mathlib.Data.List.Nodup
import Mathlib.Logic.Function.Basic
import Seedbed.Pool.Basic

/-!
# Places of connections

A connection is in one place at a time: with the caller who has opened it for a pool that is being
made, among the idle connections of a pool, or among those that the pool has out. It stays so, and
every pool stays within its bounds (`Sorted`), when connections are taken out of a pool (`fewer`),
and when one that is in no place is lent by a pool or waits in it (`lend`, `shelve`).
-/

namespace Seedbed

open Function

/-! ## Lists that share nothing -/

/-- Whether nothing is twice in some lists, be it in one of them or in two. -/
structure Parted {ι α : Type} (lists : ι → List α) : Prop where
  nodup : ∀ index, (lists index).Nodup
  alone : ∀ {first second item}, item ∈ lists first → item ∈ lists second → first = second

namespace Parted

variable {ι α : Type} {lists : ι → List α} {index other : ι} {item : α} {items : List α}

/-- Something may be taken away from each list. -/
theorem mono (parted : Parted lists) {fewer : ι → List α}
    (sublist : ∀ index, (fewer index).Sublist (lists index)) : Parted fewer where
  nodup index := (parted.nodup index).sublist (sublist index)
  alone first second := parted.alone ((sublist _).subset first) ((sublist _).subset second)

variable [DecidableEq ι]

/-- A list may be made anew of what was in it and of what is in no list. -/
theorem update (parted : Parted lists) (nodup : items.Nodup)
    (own : ∀ item ∈ items, item ∈ lists index ∨ ∀ other, item ∉ lists other) :
    Parted (update lists index items) := by
  have only {item : α} {other : ι} (inside : item ∈ items)
      (there : item ∈ Function.update lists index items other) : other = index := by
    by_cases same : other = index
    · exact same
    · rw [update_of_ne same] at there
      rcases own item inside with here | nowhere
      · exact parted.alone there here
      · exact absurd there (nowhere other)
  have cases {item : α} {other : ι} (there : item ∈ Function.update lists index items other) :
      item ∈ items ∨ item ∈ lists other := by
    by_cases same : other = index
    · rw [same, update_self] at there
      exact .inl there
    · rw [update_of_ne same] at there
      exact .inr there
  constructor
  · exact (forall_update_iff lists fun _ list => list.Nodup).mpr
      ⟨nodup, fun other _ => parted.nodup other⟩
  · intro first second item inFirst inSecond
    rcases cases inFirst with inside | beforeFirst
    · exact (only inside inFirst).trans (only inside inSecond).symm
    · rcases cases inSecond with inside | beforeSecond
      · exact (only inside inFirst).trans (only inside inSecond).symm
      · exact parted.alone beforeFirst beforeSecond

theorem narrow (parted : Parted lists) (sublist : items.Sublist (lists index)) :
    Parted (Function.update lists index items) :=
  parted.update ((parted.nodup index).sublist sublist) fun _ inside =>
    .inl (sublist.subset inside)

/-- Something that is in no list is put into one. -/
theorem add (parted : Parted lists) (fresh : ∀ other, item ∉ lists other)
    (same : items.Perm (item :: lists index)) : Parted (Function.update lists index items) := by
  refine parted.update ?_ fun other inside => ?_
  · exact same.nodup_iff.mpr (List.nodup_cons.mpr ⟨fresh index, parted.nodup index⟩)
  · rcases List.mem_cons.mp (same.mem_iff.mp inside) with rfl | before
    · exact .inr fresh
    · exact .inl before

/-- What is taken out of its list is in none. -/
theorem gone (parted : Parted lists) (inside : item ∈ lists index) (out : item ∉ items)
    (other : ι) : item ∉ Function.update lists index items other := by
  intro there
  by_cases same : other = index
  · rw [same, update_self] at there
    exact out there
  · rw [update_of_ne same] at there
    exact same (parted.alone there inside)

end Parted

/-- What holds of all in some lists holds of all once one of them is another list. -/
theorem forall_mem_update {ι α : Type} [DecidableEq ι] {lists : ι → List α} {index : ι}
    {items : List α} {Holds : α → Prop} (all : ∀ index, ∀ item ∈ lists index, Holds item)
    (own : ∀ item ∈ items, Holds item) :
    ∀ other, ∀ item ∈ update lists index items other, Holds item :=
  (forall_update_iff lists fun _ list => ∀ item ∈ list, Holds item).mpr
    ⟨own, fun other _ => all other⟩

/-! ## Places -/

/-- Where a connection can be. -/
inductive Spot where
  /-- With a caller who has opened it for a pool that is being made. -/
  | opened (who : Nat)
  | idle (pool : PoolId)
  | out (pool : PoolId)
  deriving DecidableEq

namespace World

variable {world after : World} {pool : PoolId} {state : Pool} {connection : ConnectionId}
  {opened hands : Nat → List ConnectionId} {who : Nat}

/-- Whether a pool has a connection out. -/
def Lent (world : World) (pool : PoolId) (connection : ConnectionId) : Prop :=
  ∃ state, world.pool? pool = some state ∧ connection ∈ state.out

/-- The connections in each place, if callers have opened some for pools that are being made. -/
def places (world : World) (opened : Nat → List ConnectionId) : Spot → List ConnectionId
  | .opened who => opened who
  | .idle pool => ((world.pool? pool).map Pool.idle).getD []
  | .out pool => ((world.pool? pool).map Pool.out).getD []

theorem places_idle (made : world.pool? pool = some state) :
    world.places opened (.idle pool) = state.idle := by
  rw [places, made]
  rfl

theorem places_out (made : world.pool? pool = some state) :
    world.places opened (.out pool) = state.out := by
  rw [places, made]
  rfl

theorem lent_iff : world.Lent pool connection ↔ connection ∈ world.places opened (.out pool) := by
  rw [Lent, places]
  cases world.pool? pool with
  | none => exact iff_of_false nofun List.not_mem_nil
  | some state => exact ⟨fun ⟨_, same, out⟩ => Option.some.inj same ▸ out, fun out => ⟨_, rfl, out⟩⟩

/-- A pool that is changed changes the connections in its own two places. -/
theorem places_modifyPool (made : world.pool? pool = some state) (change : Pool → Pool) :
    (world.modifyPool pool change).places opened =
      update (update (world.places opened) (.idle pool) (change state).idle) (.out pool)
        (change state).out := by
  have own : (world.modifyPool pool change).pool? pool = some (change state) := by
    rw [pool?_modifyPool, made]
    rfl
  funext spot
  cases spot with
  | opened who => rfl
  | idle other =>
    rw [update_of_ne (by nofun)]
    by_cases same : other = pool
    · rw [same, update_self, places_idle own]
    · rw [update_of_ne (same ∘ Spot.idle.inj), places, places,
        pool?_modifyPool_ne change (Ne.symm same)]
  | out other =>
    by_cases same : other = pool
    · rw [same, update_self, places_out own]
    · rw [update_of_ne (same ∘ Spot.out.inj), update_of_ne (by nofun), places, places,
        pool?_modifyPool_ne change (Ne.symm same)]

theorem places_modifyPool_idle (made : world.pool? pool = some state) {change : Pool → Pool}
    (out : (change state).out = state.out) :
    (world.modifyPool pool change).places opened =
      update (world.places opened) (.idle pool) (change state).idle := by
  rw [places_modifyPool made, out, update_eq_self_iff, update_of_ne (by nofun), places_out made]

theorem places_modifyPool_out (made : world.pool? pool = some state) {change : Pool → Pool}
    (idle : (change state).idle = state.idle) :
    (world.modifyPool pool change).places opened =
      update (world.places opened) (.out pool) (change state).out := by
  have unchanged : update (world.places opened) (.idle pool) state.idle = world.places opened := by
    rw [update_eq_self_iff, places_idle made]
  rw [places_modifyPool made, idle, unchanged]

theorem places_opened (world : World) (opened : Nat → List ConnectionId) (who : Nat)
    (connections : List ConnectionId) :
    world.places (update opened who connections) =
      update (world.places opened) (.opened who) connections := by
  funext spot
  cases spot with
  | opened other =>
    by_cases same : other = who
    · rw [same, update_self]
      exact update_self ..
    · rw [update_of_ne (same ∘ Spot.opened.inj)]
      exact update_of_ne same ..
  | idle pool => rw [update_of_ne (by nofun)]; rfl
  | out pool => rw [update_of_ne (by nofun)]; rfl

/-- Whether all connections are in order: none is in two places, each was opened, and no pool has
more of them than it may have. -/
structure Sorted (world : World) (opened : Nat → List ConnectionId) : Prop where
  parted : Parted (world.places opened)
  known : ∀ spot, ∀ connection ∈ world.places opened spot, connection < world.server.opened
  room : ∀ {pool state}, world.pool? pool = some state →
    state.idle.length + state.out.length ≤ state.max

/-- Whether a connection was opened, and is in no place. -/
structure Loose (world : World) (opened : Nat → List ConnectionId) (connection : ConnectionId) :
    Prop where
  nowhere : ∀ spot, connection ∉ world.places opened spot
  there : connection < world.server.opened

/-- Whether a pool has room for one more connection. -/
structure Roomy (world : World) (pool : PoolId) (state : Pool) : Prop where
  made : world.pool? pool = some state
  room : state.idle.length + state.out.length < state.max

namespace Sorted

variable {change : Pool → Pool}

theorem congr (sorted : world.Sorted opened) (pools : after.pools = world.pools)
    (longer : world.server.opened ≤ after.server.opened) : after.Sorted opened := by
  have states (pool : PoolId) : after.pool? pool = world.pool? pool := by rw [pool?, pools]; rfl
  have same : after.places opened = world.places opened := by
    funext spot
    cases spot with
    | opened who => rfl
    | idle pool => rw [places, places, states]
    | out pool => rw [places, places, states]
  refine ⟨same ▸ sorted.parted, fun spot connection there => ?_, fun made => ?_⟩
  · exact Nat.lt_of_lt_of_le (sorted.known spot connection (same ▸ there)) longer
  · exact sorted.room (states _ ▸ made)

theorem lent_unique (sorted : world.Sorted opened) {other : PoolId}
    (lent : world.Lent pool connection) (too : world.Lent other connection) : pool = other :=
  Spot.out.inj (sorted.parted.alone (lent_iff.mp lent) (lent_iff.mp too))

/-- A caller does without some of the connections that it has opened. -/
theorem forget (sorted : world.Sorted opened) {connections : List ConnectionId}
    (fewer : connections.Sublist (opened who)) : world.Sorted (update opened who connections) := by
  refine ⟨?_, ?_, sorted.room⟩
  · rw [places_opened]
    exact sorted.parted.narrow fewer
  · rw [places_opened]
    exact forall_mem_update sorted.known fun connection inside =>
      sorted.known (.opened who) connection (fewer.subset inside)

theorem known_of_made (sorted : world.Sorted opened) (made : world.pool? pool = some state)
    (inside : connection ∈ state.idle ∨ connection ∈ state.out) :
    connection < world.server.opened := by
  rcases inside with waits | lent
  · exact sorted.known (.idle pool) connection (places_idle made ▸ waits)
  · exact sorted.known (.out pool) connection (places_out made ▸ lent)

theorem modify (sorted : world.Sorted opened) (made : world.pool? pool = some state)
    (parted : Parted ((world.modifyPool pool change).places opened))
    (known : ∀ connection, connection ∈ (change state).idle ∨ connection ∈ (change state).out →
      connection < world.server.opened)
    (room : (change state).idle.length + (change state).out.length ≤ (change state).max) :
    (world.modifyPool pool change).Sorted opened := by
  refine ⟨parted, ?_, fun {other found} madeToo => ?_⟩
  · rw [places_modifyPool made]
    refine forall_mem_update (forall_mem_update sorted.known ?_) ?_
    · exact fun connection idle => known connection (.inl idle)
    · exact fun connection out => known connection (.inr out)
  · by_cases same : other = pool
    · rw [same, pool?_modifyPool, made] at madeToo
      cases madeToo
      exact room
    · rw [pool?_modifyPool_ne change (Ne.symm same)] at madeToo
      exact sorted.room madeToo

theorem fewer (sorted : world.Sorted opened) (made : world.pool? pool = some state)
    (idle : (change state).idle.Sublist state.idle) (out : (change state).out.Sublist state.out)
    (max : (change state).max = state.max) : (world.modifyPool pool change).Sorted opened := by
  refine sorted.modify made ?_ (fun connection inside => ?_) ?_
  · rw [places_modifyPool made]
    refine (sorted.parted.narrow ?_).narrow ?_
    · rw [places_idle made]
      exact idle
    · rw [update_of_ne (by nofun), places_out made]
      exact out
  · exact sorted.known_of_made made (inside.imp (idle.subset ·) (out.subset ·))
  · rw [max]
    exact Nat.le_trans (Nat.add_le_add idle.length_le out.length_le) (sorted.room made)

/-- A connection that is in no place is lent by a pool. -/
theorem lend (sorted : world.Sorted opened) (roomy : world.Roomy pool state)
    (loose : world.Loose opened connection) :
    (world.modifyPool pool fun state => { state with out := connection :: state.out }).Sorted
      opened := by
  refine sorted.modify roomy.made ?_ (fun other inside => ?_) (Nat.succ_le_of_lt roomy.room)
  · rw [places_modifyPool_out roomy.made rfl]
    exact sorted.parted.add loose.nowhere (.of_eq (by rw [places_out roomy.made]))
  · rcases inside with waits | lent
    · exact sorted.known_of_made roomy.made (.inl waits)
    · rcases List.mem_cons.mp lent with rfl | before
      · exact loose.there
      · exact sorted.known_of_made roomy.made (.inr before)

/-- A connection that is in no place waits in a pool. -/
theorem shelve (sorted : world.Sorted opened) (roomy : world.Roomy pool state)
    (loose : world.Loose opened connection) :
    (world.modifyPool pool fun state => { state with idle := state.idle ++ [connection] }).Sorted
      opened := by
  refine sorted.modify roomy.made ?_ (fun other inside => ?_) ?_
  · rw [places_modifyPool_idle roomy.made rfl]
    refine sorted.parted.add loose.nowhere ?_
    rw [places_idle roomy.made]
    exact List.perm_append_singleton ..
  · rcases inside with waits | lent
    · rcases List.mem_append.mp waits with before | added
      · exact sorted.known_of_made roomy.made (.inl before)
      · rw [List.mem_singleton.mp added]
        exact loose.there
    · exact sorted.known_of_made roomy.made (.inr lent)
  · rw [List.length_append, List.length_singleton, Nat.add_right_comm]
    exact Nat.succ_le_of_lt roomy.room

/-- A connection that has waited leaves its pool. -/
theorem unshelve (sorted : world.Sorted opened) (made : world.pool? pool = some state)
    {idle : List ConnectionId} (waits : state.idle = connection :: idle) :
    let left := world.modifyPool pool fun state => { state with idle }
    left.Sorted opened ∧ left.Roomy pool { state with idle } ∧ left.Loose opened connection := by
  have fewer : idle.Sublist state.idle := waits ▸ List.sublist_cons_self connection idle
  have waited : connection ∈ world.places opened (.idle pool) := by
    rw [places_idle made, waits]
    exact List.mem_cons_self
  have once : connection ∉ idle := by
    have nodup := sorted.parted.nodup (.idle pool)
    rw [places_idle made, waits] at nodup
    exact (List.nodup_cons.mp nodup).1
  refine ⟨sorted.fewer made fewer (.refl _) rfl, ⟨?_, ?_⟩, ?_,
    sorted.known (.idle pool) connection waited⟩
  · rw [pool?_modifyPool, made]
    rfl
  · have room := sorted.room made
    rw [waits, List.length_cons, Nat.add_right_comm] at room
    exact room
  · rw [places_modifyPool_idle made rfl]
    exact sorted.parted.gone waited once

/-- A connection that was lent comes back. -/
theorem takeBack (sorted : world.Sorted opened) (made : world.pool? pool = some state)
    (lent : connection ∈ state.out) :
    let left := world.modifyPool pool fun state =>
      { state with out := state.out.erase connection }
    left.Sorted opened ∧ left.Roomy pool { state with out := state.out.erase connection } ∧
      left.Loose opened connection := by
  have out : connection ∈ world.places opened (.out pool) := by rwa [places_out made]
  have once : connection ∉ state.out.erase connection := by
    have nodup := sorted.parted.nodup (.out pool)
    rw [places_out made] at nodup
    exact nodup.not_mem_erase
  refine ⟨sorted.fewer made (.refl _) List.erase_sublist rfl, ⟨?_, ?_⟩, ?_,
    sorted.known (.out pool) connection out⟩
  · rw [pool?_modifyPool, made]
    rfl
  · have room := sorted.room made
    have fewer := List.length_erase_add_one lent
    show state.idle.length + (state.out.erase connection).length < state.max
    omega
  · rw [places_modifyPool_out made rfl]
    exact sorted.parted.gone out once

end Sorted
end World
end Seedbed

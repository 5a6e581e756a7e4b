import Seedbed.Proofs.Seeder.Phases

/-!
# Runs side by side

Any number of runs share one manager, and nobody else uses it. A shutdown takes whatever pool is in
the slot, and yet no run ever takes the pool of another: a run gets past its establishment only with
its own pool in the slot, and while it is there every other run fails in its establishment. What
carries this is a condition on the phases of all runs together (`Held`): one run at most has the
slot locked, one run at most has its pool in the slot, and no two runs have made the same pool.
-/

namespace Seedbed.Seeder

open Program Function

/-- A phase fits a world. -/
structure Phase.Fits (world : World) (phase : Phase) : Prop where
  found : ∀ found, phase = .inside found → world.slot = found
  slot : ∀ pool, phase.pool? = some pool → phase.Owning → world.slot = some pool
  made : ∀ pool, phase.pool? = some pool → pool < world.pools.length

/-- What is seen of runs from outside. -/
abbrev RunMark := Mark fun _ : Config => Except Failure Report

/-- How the phases of all runs hold together. -/
structure Held (history : List RunMark) (world : World) (phases : Nat → Phase) : Prop where
  guarded : Guarded world.locked fun who => (phases who).Inside
  owned : Guarded world.slot.isSome fun who => (phases who).Owning
  fits : ∀ who, (phases who).Fits world
  apart : ∀ {who other pool}, (phases who).pool? = some pool → (phases other).pool? = some pool →
    who = other
  known : ∀ who config outcome, .gets who config outcome ∈ history →
    outcome ≠ .error .notInitialized

section

variable {history : List RunMark} {world after : World} {phases : Nat → Phase} {who : Nat}
  {phase later : Phase}

theorem Phase.Fits.drift (fits : phase.Fits world) (drift : World.Drift world after) :
    phase.Fits after where
  found found same := drift.slot.trans (fits.found found same)
  slot pool same owning := drift.slot.trans (fits.slot pool same owning)
  made pool same := by rw [drift.made]; exact fits.made pool same

/-- A run goes on, out of the lock, with the pool that it had. -/
theorem Phase.Fits.onward (fits : phase.Fits world) (out : ¬ later.Inside)
    (owning : later.Owning → phase.Owning)
    (pools : ∀ pool, later.pool? = some pool → phase.pool? = some pool) : later.Fits world where
  found found same := by rw [same] at out; exact absurd trivial out
  slot pool same owns := fits.slot pool (pools pool same) (owning owns)
  made pool same := fits.made pool (pools pool same)

theorem Held.fits_update (held : Held history world phases) (own : phase.Fits world) :
    ∀ other, (update phases who phase other).Fits world :=
  (forall_update_iff phases fun _ phase => phase.Fits world).mpr
    ⟨own, fun other _ => held.fits other⟩

/-- A run that has made no pool but the one that it had stays apart from the others. -/
theorem Held.apart_update (held : Held history world phases)
    (pools : ∀ pool, later.pool? = some pool → (phases who).pool? = some pool) {first second : Nat}
    {pool : PoolId} (one : (update phases who later first).pool? = some pool)
    (two : (update phases who later second).pool? = some pool) : first = second := by
  have before {other : Nat} (same : (update phases who later other).pool? = some pool) :
      (phases other).pool? = some pool := by
    by_cases own : other = who
    · rw [own, update_self] at same
      rw [own]
      exact pools pool same
    · rw [update_of_ne own] at same
      exact same
  exact held.apart (before one) (before two)

theorem Held.drift (held : Held history world phases) (drift : World.Drift world after) :
    Held history after phases where
  guarded := drift.locked ▸ held.guarded
  owned := drift.slot ▸ held.owned
  fits who := (held.fits who).drift drift
  apart := held.apart
  known := held.known

/-- A run that does not have the slot locked goes on. -/
theorem Held.onward {more : List RunMark} (held : Held history world phases)
    (before : ¬ (phases who).Inside) (out : ¬ later.Inside)
    (owning : later.Owning ↔ (phases who).Owning)
    (pools : ∀ pool, later.pool? = some pool → (phases who).pool? = some pool)
    (known : ∀ who config outcome, .gets who config outcome ∈ more →
      outcome ≠ .error .notInitialized) : Held more world (update phases who later) where
  guarded := held.guarded.stay (iff_of_false out before)
  owned := held.owned.stay owning
  fits := held.fits_update ((held.fits who).onward out owning.mp pools)
  apart := held.apart_update pools
  known := known

/-- The run that has the slot locked unlocks it. -/
theorem Held.unlock (held : Held history world phases) (inside : (phases who).Inside)
    (out : ¬ later.Inside) (owning : later.Owning ↔ (phases who).Owning)
    (pools : ∀ pool, later.pool? = some pool → (phases who).pool? = some pool) :
    Held history { world with locked := false } (update phases who later) where
  guarded := held.guarded.leave inside out
  owned := held.owned.stay owning
  fits other := by
    obtain ⟨found, slot, made⟩ :=
      held.fits_update ((held.fits who).onward out owning.mp pools) other
    exact ⟨found, slot, made⟩
  apart := held.apart_update pools
  known := held.known

/-- A run locks the slot. -/
theorem Held.lock (held : Held history world phases) (fresh : phases who = .fresh)
    (unlocked : world.locked = false) :
    Held history { world with locked := true } (update phases who (.inside world.slot)) where
  guarded := by
    have guarded := held.guarded
    rw [unlocked] at guarded
    exact guarded.enter trivial
  owned := held.owned.stay (by rw [fresh]; exact Iff.rfl)
  fits other := by
    have own : (Phase.inside world.slot).Fits world :=
      ⟨fun found same => by cases same; rfl, nofun, nofun⟩
    obtain ⟨found, slot, made⟩ := held.fits_update own other
    exact ⟨found, slot, made⟩
  apart := held.apart_update (by nofun)
  known := held.known

/-- A run puts its pool into the slot, which it has found empty. -/
theorem Held.install (held : Held history world phases) (inside : phases who = .inside none)
    (params : ConnectionParams) (max : Nat) (idle : List ConnectionId) :
    Held history (world.install params max idle)
      (update phases who (.filled world.pools.length)) := by
  have locking : (phases who).Inside := by rw [inside]; exact trivial
  have empty : world.slot = none := (held.fits who).found none inside
  have owned := held.owned
  rw [empty] at owned
  have longer : (world.install params max idle).pools.length = world.pools.length + 1 :=
    List.length_append ..
  -- The number of the new pool is that of no pool that was made before.
  have unmade (other : Nat) : (phases other).pool? ≠ some world.pools.length :=
    fun same => Nat.lt_irrefl _ ((held.fits other).made _ same)
  refine ⟨held.guarded.stay (iff_of_true trivial locking), owned.enter trivial, ?_, ?_, held.known⟩
  · refine (forall_update_iff phases fun _ phase => phase.Fits _).mpr ⟨⟨nofun, ?_, ?_⟩, ?_⟩
    · rintro _ ⟨⟩ -
      rfl
    · rintro _ ⟨⟩
      rw [longer]
      exact Nat.lt_succ_self _
    · intro other different
      refine ⟨fun found same => ?_, fun pool _ owning => absurd owning (owned.outside other), ?_⟩
      · have lockingToo : (phases other).Inside := by rw [same]; exact trivial
        exact absurd (held.guarded.alone lockingToo locking) different
      · intro pool same
        rw [longer]
        exact Nat.lt_succ_of_lt ((held.fits other).made pool same)
  · intro first second pool one two
    by_cases own : first = who
    · by_cases ownToo : second = who
      · rw [own, ownToo]
      · rw [own, update_self] at one
        rw [update_of_ne ownToo] at two
        cases one
        exact absurd two (unmade second)
    · by_cases ownToo : second = who
      · rw [update_of_ne own] at one
        rw [ownToo, update_self] at two
        cases two
        exact absurd one (unmade first)
      · rw [update_of_ne own] at one
        rw [update_of_ne ownToo] at two
        exact held.apart one two

/-- A run takes its pool out of the slot. -/
theorem Held.take (held : Held history world phases) {pool : PoolId}
    (owner : phases who = .owner pool) (unlocked : world.locked = false) :
    Held history { world with slot := none } (update phases who (.closing pool)) := by
  have owning : (phases who).Owning := by rw [owner]; exact trivial
  have guarded := held.guarded
  rw [unlocked] at guarded
  refine ⟨held.guarded.stay (iff_of_false id (guarded.outside who)), held.owned.leave owning id, ?_,
    held.apart_update (by rw [owner]; exact fun _ => id), held.known⟩
  refine (forall_update_iff phases fun _ phase => phase.Fits _).mpr ⟨⟨nofun, nofun, ?_⟩, ?_⟩
  · exact fun made same => (held.fits who).made made (by rw [owner]; exact same)
  · intro other different
    refine ⟨fun found same => ?_, fun _ _ owningToo => ?_, (held.fits other).made⟩
    · exact absurd (by rw [same]; exact trivial) (guarded.outside other)
    · exact absurd (held.owned.alone owningToo owning) different

/-- A run has its pool closed. -/
theorem Held.finish (held : Held history world phases) {pool : PoolId}
    (closing : phases who = .closing pool) :
    Held history world (update phases who (.ended (some pool))) := by
  refine held.onward ?_ id ?_ ?_ held.known <;> rw [closing]
  · exact id
  · exact Iff.rfl
  · exact fun _ => id

/-- Every move keeps all runs together. -/
theorem Held.move (held : Held history world phases) {request : Request} {answer : request.Answer}
    (answered : World.perform request world = some (answer, after))
    (moves : Moves (phases who) request answer phase) :
    Held history after (update phases who phase) := by
  generalize turn : phases who = before at moves
  cases moves with
  | lock found =>
    obtain ⟨unlocked, rfl, rfl⟩ := World.perform_lock answered
    exact held.lock turn unlocked
  | opens found opens answer =>
    rw [← turn, update_eq_self]
    exact held.drift (World.drift_perform answered opens.aside)
  | install params max idle pool =>
    cases answered
    exact held.install turn params max idle
  | unlock pool =>
    cases answered
    refine held.unlock ?_ id ?_ ?_ <;> rw [turn]
    · exact trivial
    · exact Iff.rfl
    · exact fun _ => id
  | giveUp found =>
    cases answered
    refine held.unlock ?_ id ?_ nofun <;> rw [turn]
    · exact trivial
    · exact Iff.rfl
  | read pool =>
    obtain ⟨-, -, rfl⟩ := World.perform_current answered
    rw [← turn, update_eq_self]
    exact held
  | checkOut pool reply =>
    rw [← turn, update_eq_self]
    exact held.drift (World.drift_perform answered trivial)
  | works pool works answer =>
    rw [← turn, update_eq_self]
    exact held.drift (World.drift_perform answered works.aside)
  | take pool =>
    obtain ⟨unlocked, -, rfl⟩ := World.perform_take answered
    exact held.take turn unlocked
  | outstanding pool count =>
    rw [← turn, update_eq_self]
    exact held.drift (World.drift_perform answered trivial)
  | close pool => exact (held.drift (World.drift_perform answered trivial)).finish turn
  | closeLater pool => exact (held.drift (World.drift_perform answered trivial)).finish turn
  | tells pool tells answer =>
    rw [← turn, update_eq_self]
    exact held.drift (World.drift_perform answered tells.works.aside)

/-- An owner finds its own pool in the slot. -/
theorem Held.expects (held : Held history world phases) {request : Request}
    {answer : request.Answer} (answered : World.perform request world = some (answer, after)) :
    Expects (phases who) request answer := by
  cases turn : phases who with
  | owner pool =>
    have own : world.slot = some pool :=
      (held.fits who).slot pool (by rw [turn]; rfl) (by rw [turn]; exact trivial)
    cases request with
    | current =>
      obtain ⟨-, rfl, -⟩ := World.perform_current answered
      exact own
    | take =>
      obtain ⟨-, rfl, -⟩ := World.perform_take answered
      exact own
    | _ => exact trivial
  | _ => exact trivial

theorem Held.call (held : Held history world phases) (free : phases who = .rest) (config : Config) :
    Held (history ++ [.calls who config]) world (update phases who .fresh) := by
  refine held.onward (by rw [free]; exact id) id (by rw [free]; exact Iff.rfl) (by nofun) ?_
  intro other config outcome member
  rcases List.mem_append.mp member with earlier | last
  · exact held.known other config outcome earlier
  · cases List.mem_singleton.mp last

theorem Held.get (held : Held history world phases) {config : Config}
    {outcome : Except Failure Report} (ended : Ends (phases who) outcome) :
    Held (history ++ [.gets who config outcome]) world (update phases who .rest) := by
  obtain ⟨last, known⟩ := ended
  refine held.onward ?_ id ?_ (by nofun) ?_
  · rcases last with turn | ⟨made, turn⟩ <;> rw [turn] <;> exact id
  · rcases last with turn | ⟨made, turn⟩ <;> rw [turn] <;> exact Iff.rfl
  · intro other config outcome member
    rcases List.mem_append.mp member with earlier | last
    · exact held.known other config outcome earlier
    · cases List.mem_singleton.mp last
      exact known

end

theorem held_start {world : World} (empty : world.slot = none) (unlocked : world.locked = false) :
    Held [] world fun _ => .rest where
  guarded := by rw [unlocked]; exact .unlocked fun _ => id
  owned := by rw [empty]; exact .unlocked fun _ => id
  fits _ := ⟨nofun, nofun, nofun⟩
  apart := nofun
  known := nofun

theorem upholds_held (seeder : Seeder) {world : World} (empty : world.slot = none)
    (unlocked : world.locked = false) :
    Upholds (discipline seeder) world Held fun _ => Told where
  start := held_start empty unlocked
  begins _ := told_nothing
  calls held free config := held.call free config
  expects held answered := held.expects answered
  moves held answered moves := held.move answered moves
  allows told moves := told.move moves
  gets held ended := held.get ended
  drifts held drift := held.drift drift

/-! ## What runs have in common -/

/-- A run is under way, and has asked something so far. -/
def Running (scene : Scene fun _ : Config => Except Failure Report) (who : Nat)
    (past : List Request.Done) : Prop :=
  ∃ config rest, scene.callers who = .busy config past rest

/-- Every run has its pool for itself. -/
structure Exclusive (history : List RunMark)
    (scene : Scene fun _ : Config => Except Failure Report) : Prop where
  /-- One run at most is between making its pool and its shutdown, -/
  alone : ∀ {who other past past' pool pool'}, Running scene who past → Running scene other past' →
    Owns past pool → Owns past' pool' → who = other
  /-- and its pool is the one in the slot. -/
  slot : ∀ pool,
    scene.world.slot = some pool ↔ ∃ who past, Running scene who past ∧ Owns past pool
  /-- Any pool that a run finds in the slot or takes out of it, borrows from or closes is one that
  it has made itself, -/
  own : ∀ {who past}, Running scene who past → ∀ event ∈ past, ∀ found,
    touched? event = some found → ∃ pool, found = some pool ∧ Made past pool
  /-- and that no other run has made. -/
  apart : ∀ {who other past past' pool}, Running scene who past → Running scene other past' →
    Made past pool → Made past' pool → who = other
  /-- A run that makes no pool shuts none down, and leaves the slot and all pools as they are. -/
  spared : ∀ {who past}, Running scene who past → (∀ pool, ¬ Made past pool) →
    ¬ ShutDown past ∧ ∀ event ∈ past, event.request.Spares
  /-- A run that is at its end has taken the pool that it has made out of the slot and closed it. -/
  ended : ∀ {who config past outcome}, scene.callers who = .busy config past (.done outcome) →
    ∀ pool, Made past pool → ShutDown past ∧ Closed past pool
  /-- No run has found its pool missing. -/
  known : ∀ who config outcome, .gets who config outcome ∈ history →
    outcome ≠ .error .notInitialized
  /-- While no run is under way there is no pool in the slot. -/
  empty : (∀ who, scene.callers who = .free) → scene.world.slot = none ∧ scene.world.locked = false

section

variable {phase : Phase} {past : List Request.Done}

theorem Phase.owning_iff {pool : PoolId} (made : phase.pool? = some pool) :
    phase.Owning ↔ ¬ phase.Shut := by
  cases phase with
  | filled | owner => exact ⟨fun _ => id, fun _ => trivial⟩
  | closing => exact ⟨fun owning => owning.elim, fun running => running trivial⟩
  | ended last =>
    have same : last = some pool := made
    subst same
    exact ⟨fun owning => owning.elim, fun running => running rfl⟩
  | rest | fresh | inside => cases made

theorem Phase.pool_of_owning (owning : phase.Owning) :
    ∃ pool, phase.pool? = some pool := by
  cases phase with
  | filled pool | owner pool => exact ⟨pool, rfl⟩
  | _ => exact owning.elim

theorem Told.owns_iff (told : Told phase past) {pool : PoolId} :
    Owns past pool ↔ phase.pool? = some pool ∧ phase.Owning := by
  rw [Owns, told.made, told.shut]
  exact and_congr_right fun made => (Phase.owning_iff made).symm

theorem Phase.not_shut_of_none (none : phase.pool? = none) : ¬ phase.Shut := by
  cases phase with
  | ended last =>
    have same : last = Option.none := none
    subst same
    exact nofun
  | closing => cases none
  | _ => exact id

/-- A run that has made no pool. -/
theorem Told.without (told : Told phase past) (nothing : ∀ pool, ¬ Made past pool) :
    ¬ ShutDown past ∧ ∀ event ∈ past, event.request.Spares := by
  have none : phase.pool? = none := by
    cases made : phase.pool? with
    | none => rfl
    | some pool => exact absurd ((told.made pool).mpr made) (nothing pool)
  exact ⟨fun shut => Phase.not_shut_of_none none (told.shut.mp shut), told.spared none⟩

/-- A run that has made a pool and is at its end. -/
theorem Told.finished (told : Told phase past)
    (last : phase = .fresh ∨ ∃ made, phase = .ended made) {pool : PoolId} (made : Made past pool) :
    ShutDown past ∧ Closed past pool := by
  have same := (told.made pool).mp made
  rcases last with rfl | ⟨last, rfl⟩
  · cases same
  · refine ⟨told.shut.mpr ?_, told.closed pool same⟩
    exact Option.isSome_iff_exists.mpr ⟨pool, same⟩

end

theorem Held.slot_iff {history : List RunMark} {world : World} {phases : Nat → Phase}
    (held : Held history world phases) (pool : PoolId) :
    world.slot = some pool ↔ ∃ who, (phases who).pool? = some pool ∧ (phases who).Owning := by
  constructor
  · intro slot
    obtain ⟨who, owning⟩ := held.owned.locked_iff.mp (by rw [slot]; rfl)
    obtain ⟨own, made⟩ := Phase.pool_of_owning owning
    have same : own = pool :=
      Option.some.inj (((held.fits who).slot own made owning).symm.trans slot)
    exact ⟨who, same ▸ made, owning⟩
  · rintro ⟨who, made, owning⟩
    exact (held.fits who).slot pool made owning

theorem Held.empty {history : List RunMark} {world : World} {phases : Nat → Phase}
    (held : Held history world phases) (resting : ∀ who, phases who = .rest) :
    world.slot = none ∧ world.locked = false := by
  constructor
  · cases slot : world.slot with
    | none => rfl
    | some pool =>
      obtain ⟨who, -, owning⟩ := (held.slot_iff pool).mp slot
      rw [resting who] at owning
      exact owning.elim
  · cases locked : world.locked with
    | false => rfl
    | true =>
      obtain ⟨who, inside⟩ := held.guarded.locked_iff.mp locked
      rw [resting who] at inside
      exact inside.elim

/-- However any number of runs are interleaved, and whatever the server does: if the slot was empty
and not locked and nobody else uses it, every run has its pool for itself. -/
theorem exclusive_of_unfolds (seeder : Seeder) {world : World} (empty : world.slot = none)
    (unlocked : world.locked = false) {history : List RunMark}
    {scene : Scene fun _ : Config => Except Failure Report}
    (unfolds : Unfolds seeder.run world history scene) : Exclusive history scene := by
  obtain ⟨phases, held, abide⟩ := (upholds_held seeder empty unlocked).invariant unfolds
  have told {who : Nat} {past : List Request.Done} (running : Running scene who past) :
      Told (phases who) past := by
    obtain ⟨config, rest, turn⟩ := running
    have abides := abide who
    rw [turn] at abides
    exact abides.2
  have resting {who : Nat} (free : scene.callers who = .free) : phases who = .rest := by
    have abides := abide who
    rw [free] at abides
    exact abides
  refine ⟨?alone, ?slot, ?own, ?apart, ?spared, ?ended, held.known, ?empty⟩
  case alone =>
    intro who other past past' pool pool' running runningToo owns ownsToo
    exact held.owned.alone ((told running).owns_iff.mp owns).2
      ((told runningToo).owns_iff.mp ownsToo).2
  case slot =>
    intro pool
    rw [held.slot_iff]
    constructor
    · rintro ⟨who, made, owning⟩
      cases turn : scene.callers who with
      | free => rw [resting turn] at owning; exact owning.elim
      | busy config past rest =>
        have running : Running scene who past := ⟨config, rest, turn⟩
        exact ⟨who, past, running, (told running).owns_iff.mpr ⟨made, owning⟩⟩
    · rintro ⟨who, past, running, owns⟩
      exact ⟨who, (told running).owns_iff.mp owns⟩
  case own =>
    intro who past running event member found touched
    obtain ⟨pool, same, made⟩ := (told running).own event member found touched
    exact ⟨pool, same, ((told running).made pool).mpr made⟩
  case apart =>
    intro who other past past' pool running runningToo made madeToo
    exact held.apart (((told running).made pool).mp made) (((told runningToo).made pool).mp madeToo)
  case spared =>
    intro who past running nothing
    exact (told running).without nothing
  case ended =>
    intro who config past outcome turn pool made
    have abides := abide who
    rw [turn] at abides
    exact abides.2.finished abides.1.1 made
  case empty => exact fun free => held.empty fun who => resting (free who)

/-- A run to its end, and another that begins with it and fails while the first has its pool. -/
def twoRuns : List (Turn Config) :=
  let config : Config := { postgres := "pg://h/d" }
  [.call 0 config, .call 1 config] ++ List.replicate 8 (.step 0) ++ List.replicate 3 (.step 1) ++
    List.replicate 11 (.step 0)

theorem exclusive_of_twoRuns :
    ∃ history scene,
      twoRuns.foldlM (Scene.play (run ⟨[]⟩)) ([], .opening .obliging) = some (history, scene) ∧
        Exclusive history scene := by
  have plays : (twoRuns.foldlM (Scene.play (run ⟨[]⟩)) ([], .opening .obliging)).isSome := by
    decide +kernel
  obtain ⟨⟨history, scene⟩, played⟩ := Option.isSome_iff_exists.mp plays
  exact ⟨history, scene, played,
    exclusive_of_unfolds ⟨[]⟩ rfl rfl (unfolds_plays twoRuns .start played)⟩

end Seedbed.Seeder

import Seedbed.Proofs.Pool.Making
import Seedbed.Proofs.Pool.Scene
import Seedbed.Proofs.Seeder.Work

/-!
# The phases of a run

A run among others: before it makes its pool, while it has the slot locked for that, while the pool
in the slot is its own, and after it has taken the pool out again. In each phase only some requests
are made, and what a run has asked so far tells the phase (`Told`). As long as its own pool is in
the slot, a run can expect to find that one there.
-/

namespace Seedbed

open Program Database

/-- Whether a request leaves the slot and all pools as they are. -/
def Request.Spares (request : Request) : Prop :=
  ∀ world after answer, World.perform request world = some (answer, after) →
    after.slot = world.slot ∧ after.pools = world.pools ∧ after.closing = world.closing

theorem Request.Opens.spares {request : Request} (opens : request.Opens) : request.Spares := by
  intro world after answer answered
  cases request with
  | connect | abandon => cases answered; exact ⟨rfl, rfl, rfl⟩
  | _ => exact opens.elim

theorem Request.spares_lock : Request.lock.Spares := by
  intro world after answer answered
  obtain ⟨-, -, rfl⟩ := World.perform_lock answered
  exact ⟨rfl, rfl, rfl⟩

theorem Request.spares_unlock : Request.unlock.Spares := by
  intro world after answer answered
  cases answered
  exact ⟨rfl, rfl, rfl⟩

namespace Seeder

/-! ## What a run has asked -/

/-- Whether a pool was made. -/
def Makes : Request.Done → PoolId → Prop
  | ⟨.install _ _ _, made⟩, pool => made = pool
  | _, _ => False

/-- Whether the slot was emptied. -/
def Takes : Request.Done → Prop
  | ⟨.take, _⟩ => True
  | _ => False

/-- Whether a pool was closed, or is to be closed later. -/
def Closes : Request.Done → PoolId → Prop
  | ⟨.close closed, _⟩, pool => closed = pool
  | ⟨.closeLater closed, _⟩, pool => closed = pool
  | _, _ => False

/-- What was found or used as a pool: by a look into the slot, by taking the pool out of it, by
borrowing a connection, or in closing the pool. -/
def touched? : Request.Done → Option (Option PoolId)
  | ⟨.current, found⟩ => some found
  | ⟨.take, found⟩ => some found
  | ⟨.checkOut pool, _⟩ => some (some pool)
  | ⟨.outstanding pool, _⟩ => some (some pool)
  | ⟨.close pool, _⟩ => some (some pool)
  | ⟨.closeLater pool, _⟩ => some (some pool)
  | _ => none

/-- A run has made a pool. -/
def Made (past : List Request.Done) (pool : PoolId) : Prop := ∃ event ∈ past, Makes event pool

/-- A run has begun its shutdown. -/
def ShutDown (past : List Request.Done) : Prop := ∃ event ∈ past, Takes event

/-- A run has closed a pool, or has left it to be closed. -/
def Closed (past : List Request.Done) (pool : PoolId) : Prop := ∃ event ∈ past, Closes event pool

/-- A run is between making a pool and its shutdown. -/
def Owns (past : List Request.Done) (pool : PoolId) : Prop := Made past pool ∧ ¬ ShutDown past

theorem made_append {past : List Request.Done} {event : Request.Done} {pool : PoolId} :
    Made (past ++ [event]) pool ↔ Made past pool ∨ Makes event pool := by
  simp only [Made, List.mem_append, List.mem_singleton, or_and_right, exists_or, exists_eq_left]

theorem shutDown_append {past : List Request.Done} {event : Request.Done} :
    ShutDown (past ++ [event]) ↔ ShutDown past ∨ Takes event := by
  simp only [ShutDown, List.mem_append, List.mem_singleton, or_and_right, exists_or, exists_eq_left]

theorem closed_append {past : List Request.Done} {event : Request.Done} {pool : PoolId} :
    Closed (past ++ [event]) pool ↔ Closed past pool ∨ Closes event pool := by
  simp only [Closed, List.mem_append, List.mem_singleton, or_and_right, exists_or, exists_eq_left]

/-! ## Phases -/

/-- Where a run stands. -/
inductive Phase where
  /-- There is no run. -/
  | rest
  | fresh
  /-- The slot is locked for the run, which has found something in it. -/
  | inside (found : Option PoolId)
  /-- The slot is locked for the run, which has put its pool into it. -/
  | filled (pool : PoolId)
  /-- The pool in the slot is that of the run. -/
  | owner (pool : PoolId)
  | closing (pool : PoolId)
  /-- All is done, after some pool was made and closed or none. -/
  | ended (made : Option PoolId)

namespace Phase

/-- The pool that a run has made. -/
def pool? : Phase → Option PoolId
  | .filled pool | .owner pool | .closing pool => some pool
  | .ended made => made
  | _ => none

/-- The pool that a run has closed. -/
def closed? : Phase → Option PoolId
  | .ended made => made
  | _ => none

/-- Whether a run has begun its shutdown. -/
def Shut : Phase → Prop
  | .closing _ => True
  | .ended made => made.isSome
  | _ => False

/-- Whether a run has the slot locked. -/
def Inside : Phase → Prop
  | .inside _ | .filled _ => True
  | _ => False

/-- Whether the pool in the slot is that of a run. -/
def Owning : Phase → Prop
  | .filled _ | .owner _ => True
  | _ => False

end Phase

/-- How requests lead from phase to phase. -/
inductive Moves : Phase → (request : Request) → request.Answer → Phase → Prop where
  | lock (found : Option PoolId) : Moves .fresh .lock found (.inside found)
  | opens (found : Option PoolId) {request : Request} (opens : request.Opens)
      (answer : request.Answer) : Moves (.inside found) request answer (.inside found)
  | install (params : ConnectionParams) (max : Nat) (idle : List ConnectionId) (pool : PoolId) :
      Moves (.inside none) (.install params max idle) pool (.filled pool)
  | unlock (pool : PoolId) : Moves (.filled pool) .unlock () (.owner pool)
  | giveUp (found : Option PoolId) : Moves (.inside found) .unlock () (.ended none)
  | read (pool : PoolId) : Moves (.owner pool) .current (some pool) (.owner pool)
  | checkOut (pool : PoolId) (reply : Except Fault ConnectionId) :
      Moves (.owner pool) (.checkOut pool) reply (.owner pool)
  | works (pool : PoolId) {request : Request} (works : request.Works) (answer : request.Answer) :
      Moves (.owner pool) request answer (.owner pool)
  | take (pool : PoolId) : Moves (.owner pool) .take (some pool) (.closing pool)
  | outstanding (pool : PoolId) (count : Nat) :
      Moves (.closing pool) (.outstanding pool) count (.closing pool)
  | close (pool : PoolId) : Moves (.closing pool) (.close pool) () (.ended (some pool))
  | closeLater (pool : PoolId) : Moves (.closing pool) (.closeLater pool) () (.ended (some pool))
  | tells (pool : PoolId) {request : Request} (tells : request.Tells) (answer : request.Answer) :
      Moves (.ended (some pool)) request answer (.ended (some pool))

/-- What can be expected: an owner finds its own pool in the slot. -/
def Expects : Phase → (request : Request) → request.Answer → Prop
  | .owner pool, .current, found => found = some pool
  | .owner pool, .take, found => found = some pool
  | _, _, _ => True

/-- The protocol of runs. -/
def protocol : Protocol Request.Answer where
  Phase := Phase
  Expects := Expects
  Moves := Moves

/-! ## What a run has asked in a phase -/

/-- What a run in a phase has asked so far. -/
structure Told (phase : Phase) (past : List Request.Done) : Prop where
  made : ∀ pool, Made past pool ↔ phase.pool? = some pool
  shut : ShutDown past ↔ phase.Shut
  closed : ∀ pool, phase.closed? = some pool → Closed past pool
  own : ∀ event ∈ past, ∀ found, touched? event = some found →
    ∃ pool, found = some pool ∧ phase.pool? = some pool
  spared : phase.pool? = none → ∀ event ∈ past, event.request.Spares

theorem told_nothing : Told .fresh [] where
  made := fun _ => ⟨fun ⟨_, member, _⟩ => (nomatch member), nofun⟩
  shut := ⟨fun ⟨_, member, _⟩ => (nomatch member), nofun⟩
  closed := nofun
  own := nofun
  spared := fun _ => nofun

section

variable {phase later : Phase} {past : List Request.Done} {event : Request.Done}

theorem Told.append (told : Told phase past)
    (makes : ∀ pool, later.pool? = some pool ↔ phase.pool? = some pool ∨ Makes event pool)
    (takes : later.Shut ↔ phase.Shut ∨ Takes event)
    (closes : ∀ pool, later.closed? = some pool → phase.closed? = some pool ∨ Closes event pool)
    (touches : ∀ found, touched? event = some found →
      ∃ pool, found = some pool ∧ later.pool? = some pool)
    (spares : later.pool? = none → event.request.Spares) : Told later (past ++ [event]) where
  made pool := by rw [made_append, told.made, makes]
  shut := by rw [shutDown_append, told.shut, takes]
  closed pool same := closed_append.mpr ((closes pool same).imp_left (told.closed pool))
  own other member found touched := by
    rcases List.mem_append.mp member with earlier | last
    · obtain ⟨pool, same, made⟩ := told.own other earlier found touched
      exact ⟨pool, same, (makes pool).mpr (.inl made)⟩
    · rw [List.mem_singleton.mp last] at touched
      exact touches found touched
  spared nothing other member := by
    rcases List.mem_append.mp member with earlier | last
    · refine told.spared ?_ other earlier
      cases made : phase.pool? with
      | none => rfl
      | some pool => rw [(makes pool).mpr (.inl made)] at nothing; cases nothing
    · rw [List.mem_singleton.mp last]
      exact spares nothing

/-- Whether something that was asked tells nothing of the phase. -/
structure Bland (event : Request.Done) : Prop where
  makes : ∀ pool, ¬ Makes event pool
  takes : ¬ Takes event

theorem Told.stay (told : Told phase past) (bland : Bland event)
    (touches : ∀ found, touched? event = some found →
      ∃ pool, found = some pool ∧ phase.pool? = some pool)
    (spares : phase.pool? = none → event.request.Spares) : Told phase (past ++ [event]) :=
  told.append (fun pool => (or_iff_left (bland.makes pool)).symm) (or_iff_left bland.takes).symm
    (fun _ => .inl) touches spares

theorem touches_own {made : Option PoolId} {pool : PoolId} (own : made = some pool)
    (found : Option PoolId) (same : some (some pool) = some found) :
    ∃ other, found = some other ∧ made = some other := by
  cases same
  exact ⟨pool, rfl, own⟩

theorem bland_of_works {request : Request} (works : request.Works) (answer : request.Answer) :
    Bland ⟨request, answer⟩ ∧ touched? ⟨request, answer⟩ = none := by
  cases request with
  | send | giveBack | say | listens | elapsed => exact ⟨⟨fun _ => id, id⟩, rfl⟩
  | _ => exact works.elim

theorem bland_of_opens {request : Request} (opens : request.Opens) (answer : request.Answer) :
    Bland ⟨request, answer⟩ ∧ touched? ⟨request, answer⟩ = none := by
  cases request with
  | connect | abandon => exact ⟨⟨fun _ => id, id⟩, rfl⟩
  | _ => exact opens.elim

/-- Every move keeps the phase in line with what was asked. -/
theorem Told.move {request : Request} {answer : request.Answer} (told : Told phase past)
    (moves : Moves phase request answer later) : Told later (past ++ [⟨request, answer⟩]) := by
  cases moves with
  | lock found =>
    exact told.append (fun pool => by simp [Phase.pool?, Makes]) (by simp [Phase.Shut, Takes]) nofun
      nofun fun _ => Request.spares_lock
  | opens found opens answer =>
    obtain ⟨bland, untouched⟩ := bland_of_opens opens answer
    exact told.stay bland (by rw [untouched]; nofun) fun _ => opens.spares
  | install params max idle pool =>
    exact told.append (fun pool => by simp [Phase.pool?, Makes]) (by simp [Phase.Shut, Takes]) nofun
      nofun nofun
  | unlock pool =>
    exact told.append (fun pool => by simp [Phase.pool?, Makes]) (by simp [Phase.Shut, Takes]) nofun
      nofun nofun
  | giveUp found =>
    exact told.append (fun pool => by simp [Phase.pool?, Makes]) (by simp [Phase.Shut, Takes]) nofun
      nofun fun _ => Request.spares_unlock
  | read pool =>
    exact told.stay ⟨fun _ => id, id⟩ (touches_own rfl) nofun
  | checkOut pool reply =>
    exact told.stay ⟨fun _ => id, id⟩ (touches_own rfl) nofun
  | works pool works answer =>
    obtain ⟨bland, untouched⟩ := bland_of_works works answer
    exact told.stay bland (by rw [untouched]; nofun) nofun
  | take pool =>
    exact told.append (fun pool => by simp [Phase.pool?, Makes]) (by simp [Phase.Shut, Takes]) nofun
      (touches_own rfl) nofun
  | outstanding pool count =>
    exact told.stay ⟨fun _ => id, id⟩ (touches_own rfl) nofun
  | close pool =>
    exact told.append (fun pool => by simp [Phase.pool?, Makes]) (by simp [Phase.Shut, Takes])
      (fun _ same => .inr (Option.some.inj same)) (touches_own rfl) nofun
  | closeLater pool =>
    exact told.append (fun pool => by simp [Phase.pool?, Makes]) (by simp [Phase.Shut, Takes])
      (fun _ same => .inr (Option.some.inj same)) (touches_own rfl) nofun
  | tells pool tells answer =>
    obtain ⟨bland, untouched⟩ := bland_of_works tells.works answer
    exact told.stay bland (by rw [untouched]; nofun) nofun

end

/-! ## Runs follow the protocol -/

theorem works_through (connection : ConnectionId) (work : Work α) :
    (through connection work).Asks Request.Works := by
  induction work with
  | done value => exact trivial
  | halt => exact trivial
  | ask errand next ih =>
    cases errand with
    | send statement => exact And.intro trivial ih
    | say line => exact And.intro trivial ih

theorem works_callAll (connection : ConnectionId) (config : Config) (routines : List Routine) :
    (callAll connection config routines).Asks Request.Works := by
  induction routines with
  | nil => exact trivial
  | cons routine rest ih =>
    refine (works_through connection (routine.seed config)).bind fun result => ?_
    cases result with
    | error failure => exact trivial
    | ok rows =>
      refine ih.bind fun result => ?_
      cases result with
      | error failed => exact trivial
      | ok counts => exact trivial

/-- Whatever work is done in between, the pool in the slot stays that of the run. -/
theorem follows_works {pool : PoolId} {program : PoolProgram α}
    (asks : program.Asks Request.Works) :
    Follows protocol (fun later _ => later = .owner pool) (.owner pool) program :=
  follows_of_asks asks fun _ works answer => .works pool works answer

theorem follows_say {pool : PoolId} (level : Log.Level) (text : String) :
    Follows protocol (fun later _ => later = .owner pool) (.owner pool) (say level text) :=
  follows_works ((tells_say level text).mono Request.Tells.works)

theorem follows_rollBack {pool : PoolId} (connection : ConnectionId) (routine : String)
    (failure : Failure) :
    Follows protocol (fun later told => later = .owner pool ∧ told = .routineFailed routine failure)
      (.owner pool) (rollBack connection routine failure) := by
  refine (follows_say _ _).bind ?_
  rintro _ _ rfl
  intro reply _
  refine ⟨.owner pool, .works pool (by trivial) reply, ?_⟩
  refine (follows_works ((tells_tellRollback reply).mono Request.Tells.works)).bind ?_
  rintro _ _ rfl
  exact ⟨rfl, rfl⟩

theorem follows_inTransaction {pool : PoolId} (seeder : Seeder) (connection : ConnectionId)
    (config : Config) :
    Follows protocol (fun later outcome => later = .owner pool ∧ outcome ≠ .error .notInitialized)
      (.owner pool) (seeder.inTransaction connection config) := by
  intro reply _
  refine ⟨.owner pool, .works pool (by trivial) reply, ?_⟩
  cases (reply : Except Fault Nat) with
  | error fault => exact ⟨rfl, nofun⟩
  | ok affected =>
    refine (follows_works (works_callAll connection config seeder.routines)).bind ?_
    rintro _ result rfl
    cases result with
    | error failed =>
      refine (follows_rollBack connection failed.1 failed.2).bind ?_
      rintro _ _ ⟨rfl, rfl⟩
      exact ⟨rfl, nofun⟩
    | ok counts =>
      intro reply _
      refine ⟨.owner pool, .works pool (by trivial) reply, ?_⟩
      cases (reply : Except Fault Nat) with
      | error fault =>
        refine (follows_say _ _).bind ?_
        rintro _ _ rfl
        exact ⟨rfl, nofun⟩
      | ok affected => exact ⟨rfl, nofun⟩

theorem follows_withConnection {pool : PoolId} (seeder : Seeder) (config : Config) :
    Follows protocol (fun later outcome => later = .owner pool ∧ outcome ≠ .error .notInitialized)
      (.owner pool) (seeder.withConnection config) := by
  rintro _ rfl
  refine ⟨.owner pool, .read pool, fun reply _ => ⟨.owner pool, .checkOut pool reply, ?_⟩⟩
  cases (reply : Except Fault ConnectionId) with
  | error fault => exact ⟨rfl, nofun⟩
  | ok connection =>
    refine (follows_inTransaction seeder connection config).bind ?_
    rintro _ outcome ⟨rfl, known⟩
    exact fun answer _ => ⟨.owner pool, .works pool (by trivial) answer, rfl, known⟩

theorem follows_shutdown {pool : PoolId} :
    Follows protocol (fun later _ => later = .ended (some pool)) (.owner pool)
      PoolManager.shutdown := by
  rintro _ rfl
  refine ⟨.closing pool, .take pool, fun outstanding _ => ⟨_, .outstanding pool outstanding, ?_⟩⟩
  show Follows protocol _ _ (PoolManager.retire pool outstanding)
  unfold PoolManager.retire
  split
  · exact fun _ _ => ⟨_, .close pool, rfl⟩
  · exact fun _ _ => ⟨_, .closeLater pool, rfl⟩

/-- How a run may end. -/
def Ends (phase : Phase) (outcome : Except Failure Report) : Prop :=
  (phase = .fresh ∨ ∃ made, phase = .ended made) ∧ outcome ≠ .error .notInitialized

theorem follows_run (seeder : Seeder) (config : Config) :
    Follows protocol Ends .fresh (seeder.run config) := by
  unfold run
  cases ConnectionParams.parse config.postgres with
  | error fault => exact ⟨.inl rfl, nofun⟩
  | ok params =>
    have made : Follows protocol
        (fun later made => (∃ pool, later = .owner pool ∧ made = .ok ()) ∨
          later = .ended none ∧ ∃ failure, made = .error failure ∧ failure ≠ .notInitialized)
        .fresh (PoolManager.establish minConnections maxConnections params) := by
      refine PoolManager.follows_make protocol Phase.inside Phase.filled Moves.lock
        (fun found _ opens answer => Moves.opens found opens answer)
        (fun _ params idle pool => Moves.install params _ idle pool)
        (fun pool => ⟨_, Moves.unlock pool, .inl ⟨pool, rfl, rfl⟩⟩)
        (fun found failure fails => ⟨_, Moves.giveUp found, .inr ⟨rfl, failure, rfl, ?_⟩⟩) params
      cases fails <;> nofun
    refine made.bind ?_
    rintro later made (⟨pool, rfl, rfl⟩ | ⟨rfl, failure, rfl, other⟩)
    · refine (follows_say _ _).bind ?_
      rintro _ _ rfl
      refine (follows_withConnection seeder config).bind ?_
      rintro _ outcome ⟨rfl, known⟩
      refine follows_shutdown.bind ?_
      rintro _ _ rfl
      cases outcome with
      | error failure => exact ⟨.inr ⟨_, rfl⟩, fun same => known (by cases same; rfl)⟩
      | ok routines =>
        intro elapsed _
        refine ⟨_, .tells pool (by trivial) elapsed, ?_⟩
        refine (follows_of_asks (tells_announce { routines, elapsed })
          fun _ tells answer => Moves.tells pool tells answer).bind ?_
        rintro _ _ rfl
        exact ⟨.inr ⟨_, rfl⟩, nofun⟩
    · exact ⟨.inr ⟨_, rfl⟩, fun same => other (by cases same; rfl)⟩

/-- Every run is done by the protocol. -/
def discipline (seeder : Seeder) : Discipline seeder.run where
  toProtocol := protocol
  rest := .rest
  begins _ := .fresh
  Ends _ := Ends
  follows := follows_run seeder

end Seeder
end Seedbed

import Mathlib.Logic.Function.Basic
import Seedbed.Proofs.Pool.Lending
import Seedbed.Proofs.Pool.Requests
import Seedbed.Proofs.Program.Protocol

/-!
# Many callers

Any number of callers who share the pools and the server. Each carries out one job after the other;
between two requests of a job others may make theirs, and the server and the connections may change
in any way that leaves the slot and its lock alone (`Unfolds`). If the programs of all jobs follow a
protocol, and its moves keep a condition on the world and on the phases of all callers, then the
condition holds whatever happens in whatever order (`Upholds.invariant`).
-/

namespace Seedbed

open Program Function

section

variable {Job : Type} {Result : Job → Type}

/-- A caller, who may be in the middle of a job. -/
inductive Caller (Result : Job → Type) where
  | free
  /-- What the caller has asked for the job so far, and what is left of it. -/
  | busy (job : Job) (past : List Request.Done) (rest : PoolProgram (Result job))

/-- The world with all its callers, who are numbered. -/
structure Scene (Result : Job → Type) where
  world : World
  callers : Nat → Caller Result

/-- A world that nobody has begun to use. -/
def Scene.opening (world : World) : Scene Result := ⟨world, fun _ => .free⟩

/-- What is seen of callers from outside. -/
inductive Mark (Result : Job → Type) where
  | calls (who : Nat) (job : Job)
  | gets (who : Nat) (job : Job) (result : Result job)

/-- A change of the world that is up to nobody: it leaves the slot and its lock alone, and makes no
pool and forgets none. -/
structure World.Drift (before after : World) : Prop where
  slot : after.slot = before.slot
  locked : after.locked = before.locked
  made : after.pools.length = before.pools.length

theorem World.Drift.refl (world : World) : World.Drift world world := ⟨rfl, rfl, rfl⟩

/-- A change of the world that leaves the slot and its lock alone, and how many connections each pool
may have. -/
structure World.Steady (before after : World) : Prop where
  slot : after.slot = before.slot
  locked : after.locked = before.locked
  bounds : after.pools.map Pool.max = before.pools.map Pool.max

namespace World

theorem Steady.drift {before after : World} (steady : Steady before after) :
    Drift before after where
  slot := steady.slot
  locked := steady.locked
  made := by simpa using congrArg List.length steady.bounds

theorem Steady.refl (world : World) : Steady world world := ⟨rfl, rfl, rfl⟩

/-- What is told of each pool is changed for the pool that is changed. -/
theorem map_modifyPool (world : World) (pool : PoolId) (project : Pool → α) {change : Pool → Pool}
    {changed : α → α} (same : ∀ state, project (change state) = changed (project state)) :
    (world.modifyPool pool change).pools.map project =
      (world.pools.map project).modify pool changed := by
  refine List.ext_getElem? fun other => ?_
  rw [List.getElem?_map, List.getElem?_modify, List.getElem?_map, modifyPool, List.getElem?_modify]
  cases world.pools[other]? with
  | none => rfl
  | some state => by_cases own : pool = other <;> simp [own, same]

theorem bounds_modifyPool (world : World) (pool : PoolId) {change : Pool → Pool}
    (same : ∀ state, (change state).max = state.max) :
    (world.modifyPool pool change).pools.map Pool.max = world.pools.map Pool.max := by
  have kept := @map_modifyPool _ world pool Pool.max change id same
  rwa [List.modify_id] at kept

theorem LendsNew.steady {world after : World} {pool : PoolId} {params : ConnectionParams}
    {reply : Except Database.Fault ConnectionId}
    (lends : LendsNew world pool params reply after) : Steady world after := by
  cases lends with
  | refused connects => exact ⟨rfl, rfl, rfl⟩
  | opened connects => exact ⟨rfl, rfl, bounds_modifyPool _ _ fun _ => rfl⟩

theorem Lends.steady {world after : World} {pool : PoolId}
    {reply : Except Database.Fault ConnectionId} (lends : Lends world pool reply after) :
    Steady world after := by
  cases lends with
  | closed => exact .refl world
  | waiting made waits there => exact ⟨rfl, rfl, bounds_modifyPool _ _ fun _ => rfl⟩
  | replaced lent =>
    obtain ⟨slot, locked, bounds⟩ := lent.steady
    exact ⟨slot, locked, bounds.trans (bounds_modifyPool _ _ fun _ => rfl)⟩
  | new lent => exact lent.steady

theorem steady_giveBack (world : World) (connection : ConnectionId) :
    Steady world (world.giveBack connection) := by
  have taken (pool : PoolId) :
      (world.modifyPool pool fun state =>
        { state with out := state.out.erase connection }).pools.map Pool.max =
          world.pools.map Pool.max :=
    bounds_modifyPool world pool fun _ => rfl
  unfold giveBack
  split
  · exact .refl world
  · rename_i pool _
    simp only
    split
    · exact ⟨rfl, rfl, taken pool⟩
    · split
      · refine ⟨rfl, rfl, ?_⟩
        rw [bounds_modifyPool]
        · exact taken pool
        · exact fun _ => rfl
      · exact ⟨rfl, rfl, taken pool⟩

theorem drift_giveBack (world : World) (connection : ConnectionId) :
    Drift world (world.giveBack connection) := (steady_giveBack world connection).drift

/-- A request that has nothing to do with the slot leaves it alone. -/
theorem steady_perform {request : Request} {world after : World} {answer : request.Answer}
    (answered : perform request world = some (answer, after)) (aside : request.Aside) :
    Steady world after := by
  cases request with
  | lock | unlock | install | current | take => exact aside.elim
  | checkOut pool => exact (lends_of_checkOut answered).steady
  | giveBack connection => cases answered; exact steady_giveBack world connection
  | close pool => cases answered; exact ⟨rfl, rfl, bounds_modifyPool _ _ fun _ => rfl⟩
  | say line => cases answered; split <;> exact ⟨rfl, rfl, rfl⟩
  | connect | abandon | outstanding | closeLater | send | listens | elapsed =>
    cases answered
    exact ⟨rfl, rfl, rfl⟩

/-- A request that has nothing to do with the slot changes no more than what may change anyway. -/
theorem drift_perform {request : Request} {world after : World} {answer : request.Answer}
    (answered : perform request world = some (answer, after)) (aside : request.Aside) :
    Drift world after := (steady_perform answered aside).drift

end World

/-- What can happen, in any order, once some world is open to callers who carry out jobs by their
programs: what is seen of it, and where it has led. -/
inductive Unfolds (program : (job : Job) → PoolProgram (Result job)) (world : World) :
    List (Mark Result) → Scene Result → Prop where
  | start : Unfolds program world [] (.opening world)
  /-- A caller begins with a job. -/
  | calls {history : List (Mark Result)} {scene : Scene Result} {who : Nat}
      (before : Unfolds program world history scene) (job : Job)
      (idle : scene.callers who = .free) :
      Unfolds program world (history ++ [.calls who job])
        ⟨scene.world, update scene.callers who (.busy job [] (program job))⟩
  /-- A caller makes the next request, if that need not wait. -/
  | asks {history : List (Mark Result)} {scene : Scene Result} {who : Nat} {job : Job}
      {past : List Request.Done} {request : Request}
      {next : request.Answer → PoolProgram (Result job)} {answer : request.Answer} {after : World}
      (before : Unfolds program world history scene)
      (turn : scene.callers who = .busy job past (.ask request next))
      (answered : World.perform request scene.world = some (answer, after)) :
      Unfolds program world history
        ⟨after, update scene.callers who (.busy job (past ++ [⟨request, answer⟩]) (next answer))⟩
  /-- A caller is done with a job. -/
  | gets {history : List (Mark Result)} {scene : Scene Result} {who : Nat} {job : Job}
      {past : List Request.Done} {result : Result job}
      (before : Unfolds program world history scene)
      (turn : scene.callers who = .busy job past (.done result)) :
      Unfolds program world (history ++ [.gets who job result])
        ⟨scene.world, update scene.callers who .free⟩
  | drifts {history : List (Mark Result)} {scene : Scene Result} {after : World}
      (before : Unfolds program world history scene) (drift : World.Drift scene.world after) :
      Unfolds program world history ⟨after, scene.callers⟩

/-! ## Playing a scene -/

/-- Whose turn it is. -/
inductive Turn (Job : Type) where
  /-- To begin with a job. -/
  | call (who : Nat) (job : Job)
  /-- To go on with it. -/
  | step (who : Nat)

/-- Gives a caller a turn; none if the caller can do nothing with it. -/
def Scene.play (program : (job : Job) → PoolProgram (Result job)) :
    List (Mark Result) × Scene Result → Turn Job → Option (List (Mark Result) × Scene Result)
  | (history, scene), .call who job =>
    match scene.callers who with
    | .free => some (history ++ [.calls who job],
        ⟨scene.world, update scene.callers who (.busy job [] (program job))⟩)
    | .busy _ _ _ => none
  | (history, scene), .step who =>
    match scene.callers who with
    | .busy job _ (.done result) => some (history ++ [.gets who job result],
        ⟨scene.world, update scene.callers who .free⟩)
    | .busy job past (.ask request next) =>
      (World.perform request scene.world).map fun (answer, after) => (history,
        ⟨after, update scene.callers who (.busy job (past ++ [⟨request, answer⟩]) (next answer))⟩)
    | .busy _ _ .halt => none
    | .free => none

/-- What is played can happen. -/
theorem unfolds_play {program : (job : Job) → PoolProgram (Result job)} {world : World}
    {history later : List (Mark Result)} {scene next : Scene Result} {turn : Turn Job}
    (before : Unfolds program world history scene)
    (played : Scene.play program (history, scene) turn = some (later, next)) :
    Unfolds program world later next := by
  cases turn with
  | call who job =>
    simp only [Scene.play] at played
    split at played
    · rename_i idle
      cases played
      exact .calls before job idle
    · cases played
  | step who =>
    simp only [Scene.play] at played
    split at played
    · rename_i job past result turn
      cases played
      exact .gets before turn
    · rename_i job past request next turn
      obtain ⟨⟨answer, after⟩, answered, same⟩ := Option.map_eq_some_iff.mp played
      cases same
      exact .asks before turn answered
    · cases played
    · cases played

theorem unfolds_plays {program : (job : Job) → PoolProgram (Result job)} {world : World}
    {history later : List (Mark Result)} {scene last : Scene Result} (turns : List (Turn Job))
    (before : Unfolds program world history scene)
    (played : turns.foldlM (Scene.play program) (history, scene) = some (later, last)) :
    Unfolds program world later last := by
  induction turns generalizing history scene with
  | nil =>
    cases played
    exact before
  | cons turn rest ih =>
    obtain ⟨⟨middle, next⟩, first, others⟩ := Option.bind_eq_some_iff.mp played
    exact ih (unfolds_play before first) others

/-! ## Callers who follow a protocol -/

/-- A protocol that the programs of all jobs follow. -/
structure Discipline (program : (job : Job) → PoolProgram (Result job)) extends
    Protocol Request.Answer where
  /-- The phase of a caller who is free. -/
  rest : Phase
  /-- The phase in which a job begins. -/
  begins : Job → Phase
  /-- Whether a job may end in a phase and with a result. -/
  Ends : (job : Job) → Phase → Result job → Prop
  follows : ∀ job, Follows toProtocol (Ends job) (begins job) (program job)

variable {program : (job : Job) → PoolProgram (Result job)}

/-- Whether a caller in a phase follows a discipline, and has asked for what the phase allows. -/
def Discipline.Abides (discipline : Discipline program)
    (Allows : Job → discipline.Phase → List Request.Done → Prop) :
    Caller Result → discipline.Phase → Prop
  | .free, phase => phase = discipline.rest
  | .busy job past rest, phase =>
    Follows discipline.toProtocol (discipline.Ends job) phase rest ∧ Allows job phase past

/-- Conditions that a discipline upholds: one on what was seen, on the world and on the phases of
all callers, and one on what a single caller has asked in a phase. -/
structure Upholds (discipline : Discipline program) (world : World)
    (Holds : List (Mark Result) → World → (Nat → discipline.Phase) → Prop)
    (Allows : Job → discipline.Phase → List Request.Done → Prop) : Prop where
  start : Holds [] world fun _ => discipline.rest
  begins : ∀ job, Allows job (discipline.begins job) []
  calls : ∀ {history world phases who}, Holds history world phases →
    phases who = discipline.rest → ∀ job,
      Holds (history ++ [.calls who job]) world (update phases who (discipline.begins job))
  expects : ∀ {history world phases who request answer after}, Holds history world phases →
    World.perform request world = some (answer, after) →
      discipline.Expects (phases who) request answer
  moves : ∀ {history world phases who request answer after later}, Holds history world phases →
    World.perform request world = some (answer, after) →
      discipline.Moves (phases who) request answer later →
        Holds history after (update phases who later)
  allows : ∀ {job phase past request answer later}, Allows job phase past →
    discipline.Moves phase request answer later → Allows job later (past ++ [⟨request, answer⟩])
  gets : ∀ {history world phases who job result}, Holds history world phases →
    discipline.Ends job (phases who) result →
      Holds (history ++ [.gets who job result]) world (update phases who discipline.rest)
  drifts : ∀ {history world phases after}, Holds history world phases → World.Drift world after →
    Holds history after phases

theorem forall_update {σ τ : Type} {related : σ → τ → Prop} {callers : Nat → σ} {phases : Nat → τ}
    (all : ∀ who, related (callers who) (phases who)) {who : Nat} {caller : σ} {phase : τ}
    (one : related caller phase) (other : Nat) :
    related (update callers who caller other) (update phases who phase other) := by
  by_cases same : other = who
  · rw [same, update_self, update_self]
    exact one
  · rw [update_of_ne same, update_of_ne same]
    exact all other

/-- The conditions hold whatever happens. -/
theorem Upholds.invariant {discipline : Discipline program} {world : World}
    {Holds : List (Mark Result) → World → (Nat → discipline.Phase) → Prop}
    {Allows : Job → discipline.Phase → List Request.Done → Prop}
    (upholds : Upholds discipline world Holds Allows) {history : List (Mark Result)}
    {scene : Scene Result} (unfolds : Unfolds program world history scene) :
    ∃ phases, Holds history scene.world phases ∧
      ∀ who, discipline.Abides Allows (scene.callers who) (phases who) := by
  induction unfolds with
  | start => exact ⟨_, upholds.start, fun _ => rfl⟩
  | @calls history scene who before job idle ih =>
    obtain ⟨phases, holds, abide⟩ := ih
    have resting : phases who = discipline.rest := by
      have abides := abide who
      rw [idle] at abides
      exact abides
    exact ⟨_, upholds.calls holds resting job,
      forall_update abide ⟨discipline.follows job, upholds.begins job⟩⟩
  | @asks history scene who job past request next answer after before turn answered ih =>
    obtain ⟨phases, holds, abide⟩ := ih
    have abides := abide who
    rw [turn] at abides
    obtain ⟨follows, allows⟩ := abides
    obtain ⟨later, moves, further⟩ := follows answer (upholds.expects holds answered)
    exact ⟨_, upholds.moves holds answered moves,
      forall_update abide ⟨further, upholds.allows allows moves⟩⟩
  | @gets history scene who job past result before turn ih =>
    obtain ⟨phases, holds, abide⟩ := ih
    have abides := abide who
    rw [turn] at abides
    exact ⟨_, upholds.gets holds abides.1, forall_update abide rfl⟩
  | drifts before drift ih =>
    obtain ⟨phases, holds, abide⟩ := ih
    exact ⟨phases, upholds.drifts holds drift, abide⟩

end

/-! ## Locks -/

/-- Whether a lock is in order: it is locked while someone is inside, who then is alone there. -/
structure Guarded (locked : Bool) (Inside : Nat → Prop) : Prop where
  locked_iff : locked = true ↔ ∃ who, Inside who
  alone : ∀ {who other}, Inside who → Inside other → who = other

namespace Guarded

variable {Phase : Type} {Inside : Phase → Prop} {locked : Bool} {phases : Nat → Phase} {who : Nat}
  {phase : Phase}

theorem unlocked (outside : ∀ who, ¬ Inside (phases who)) :
    Guarded false fun who => Inside (phases who) where
  locked_iff := ⟨nofun, fun ⟨who, inside⟩ => absurd inside (outside who)⟩
  alone := fun {who _} inside => absurd inside (outside who)

theorem outside (guarded : Guarded false fun who => Inside (phases who)) (other : Nat) :
    ¬ Inside (phases other) :=
  fun inside => nomatch guarded.locked_iff.mpr ⟨other, inside⟩

/-- Someone goes in and locks. -/
theorem enter (guarded : Guarded false fun who => Inside (phases who)) (inside : Inside phase) :
    Guarded true fun other => Inside (update phases who phase other) where
  locked_iff := ⟨fun _ => ⟨who, by rw [update_self]; exact inside⟩, fun _ => rfl⟩
  alone := by
    have only {other : Nat} (there : Inside (update phases who phase other)) : other = who := by
      by_cases same : other = who
      · exact same
      · rw [update_of_ne same] at there
        exact absurd there (guarded.outside other)
    intro first second insideFirst insideSecond
    rw [only insideFirst, only insideSecond]

/-- Whoever is inside unlocks and goes out. -/
theorem leave (guarded : Guarded locked fun who => Inside (phases who))
    (inside : Inside (phases who)) (out : ¬ Inside phase) :
    Guarded false fun other => Inside (update phases who phase other) := by
  refine unlocked fun other there => ?_
  by_cases same : other = who
  · rw [same, update_self] at there
    exact out there
  · rw [update_of_ne same] at there
    exact same (guarded.alone there inside)

/-- Whoever goes on stays inside, or outside. -/
theorem stay (guarded : Guarded locked fun who => Inside (phases who))
    (same : Inside phase ↔ Inside (phases who)) :
    Guarded locked fun other => Inside (update phases who phase other) := by
  have unchanged (other : Nat) :
      Inside (update phases who phase other) ↔ Inside (phases other) := by
    by_cases equal : other = who
    · rw [equal, update_self, same]
    · rw [update_of_ne equal]
  refine ⟨?_, fun first second => guarded.alone ((unchanged _).mp first) ((unchanged _).mp second)⟩
  rw [guarded.locked_iff]
  exact exists_congr fun other => (unchanged other).symm

end Guarded
end Seedbed

import Mathlib.Control.Monad.Basic
import Seedbed.Proofs.Seeder.AllOrNothing
import Seedbed.Proofs.Seeder.Course

/-!
# Balance

What runs take, they give back: a run that has made its pool takes it out of the slot again, and
gives back the connection that it has borrowed before that (`Balanced`). So runs that follow one
another all find the slot empty (`InTurn.orderly`), unless someone else has put a pool there, and
then they leave it alone (`InTurn.turnedAway`).
-/

namespace Seedbed

open Program Database

/-- Whether a request makes a pool, borrows a connection, gives it back, or takes the pool away. -/
def Request.transfers : Request → Bool
  | .install _ _ _ | .checkOut _ | .giveBack _ | .take => true
  | _ => false

namespace Seeder

/-- Those of some requests that make or take something. -/
def transfers (history : List Request.Done) : List Request.Done :=
  history.filter (·.request.transfers)

/-- Whether all that was taken is given back, in the right order. -/
inductive Balanced : List Request.Done → Prop where
  | nothing : Balanced []
  /-- A pool was made and taken away again; no connection of it was lent. -/
  | unlent {params : ConnectionParams} {max : Nat} {idle : List ConnectionId} {pool : PoolId}
      {fault : Fault} :
      Balanced [⟨.install params max idle, pool⟩, ⟨.checkOut pool, .error fault⟩,
        ⟨.take, some pool⟩]
  /-- A connection of the pool was lent and given back in between. -/
  | lent {params : ConnectionParams} {max : Nat} {idle : List ConnectionId} {pool : PoolId}
      {connection : ConnectionId} :
      Balanced [⟨.install params max idle, pool⟩, ⟨.checkOut pool, .ok connection⟩,
        ⟨.giveBack connection, ()⟩, ⟨.take, some pool⟩]

section

variable {history : List Request.Done} {pool : PoolId} {config : Config} {routines : List Routine}

theorem transfers_append (earlier later : List Request.Done) :
    transfers (earlier ++ later) = transfers earlier ++ transfers later := List.filter_append ..

theorem transfers_eq_nil (none : ∀ event ∈ history, event.request.transfers = false) :
    transfers history = [] :=
  List.filter_eq_nil_iff.mpr fun event member => by rw [none event member]; nofun

theorem transfers_errands (connection : ConnectionId) (errands : List Errand.Done) :
    transfers (errands.map (Errand.via connection)) = [] := by
  refine transfers_eq_nil fun event member => ?_
  obtain ⟨⟨errand, answer⟩, -, rfl⟩ := List.mem_map.mp member
  cases errand <;> rfl

theorem transfers_of_telling (telling : Telling history) : transfers history = [] := by
  refine transfers_eq_nil fun event member => ?_
  have tells := telling event member
  cases same : event.request with
  | say | listens | elapsed => rfl
  | _ => rw [same] at tells; exact tells.elim

theorem transfers_of_opens (opens : ∀ event ∈ history, event.request.Opens) :
    transfers history = [] := by
  refine transfers_eq_nil fun event member => ?_
  have opens := opens event member
  cases same : event.request with
  | connect | abandon => rfl
  | _ => rw [same] at opens; exact opens.elim

/-- The transaction itself takes nothing that it would have to give back. -/
theorem transfers_of_transacts {connection : ConnectionId}
    {outcome : Outcome (Except Failure (List (String × Nat)))}
    (transacts : Transacts connection config routines outcome history) :
    transfers history = [] := by
  cases transacts with
  | unbegun fault => rfl
  | @undone _ errands _ _ _ _ told calls telling =>
    have nothing := transfers_of_telling telling
    rw [transfers_append]
    exact List.append_eq_nil_iff.mpr ⟨transfers_errands connection errands, nothing⟩
  | @refused _ errands _ _ calls fault =>
    rw [transfers_append]
    exact List.append_eq_nil_iff.mpr ⟨transfers_errands connection errands, rfl⟩
  | @committed _ _ errands _ calls =>
    rw [transfers_append]
    exact List.append_eq_nil_iff.mpr ⟨transfers_errands connection errands, rfl⟩
  | @broken _ errands calls => exact transfers_errands connection errands

/-- A connection that was lent is given back. -/
theorem transfers_of_borrows {result : Except Failure (List (String × Nat))}
    (borrows : Borrows pool config routines (.done result) history) :
    (∃ fault, transfers history = [⟨.checkOut pool, .error fault⟩]) ∨
      ∃ connection, transfers history =
        [⟨.checkOut pool, .ok connection⟩, ⟨.giveBack connection, ()⟩] := by
  cases borrows with
  | refused fault => exact .inl ⟨fault, rfl⟩
  | @lent connection _ history transacts =>
    refine .inr ⟨connection, ?_⟩
    rw [transfers_append]
    show ⟨.checkOut pool, .ok connection⟩ :: transfers history ++ _ = _
    rw [transfers_of_transacts transacts]
    rfl

theorem transfers_of_establishes {params : ConnectionParams}
    (establishes : Establishes params pool history) :
    ∃ idle, transfers history = [⟨.install params maxConnections idle, pool⟩] := by
  cases establishes with
  | @opened opening idle opens =>
    refine ⟨idle, ?_⟩
    rw [transfers_append]
    show transfers opening ++ _ = _
    rw [transfers_of_opens (opens.permitted (PoolManager.asks_firstConnections _ _ _))]
    rfl

theorem transfers_of_misses {params : ConnectionParams} {fault : Fault}
    (misses : Misses params fault history) : transfers history = [] := by
  cases misses with
  | @unopened opening opens =>
    rw [transfers_append]
    show transfers opening ++ _ = _
    rw [transfers_of_opens (opens.permitted (PoolManager.asks_firstConnections _ _ _))]
    rfl

theorem transfers_of_retires (retires : Retires pool history) :
    transfers history = [⟨.take, some pool⟩] := by
  cases retires <;> rfl

theorem transfers_of_finishes {outcome : Outcome (Except Failure (List (String × Nat)))}
    {result : Except Failure Report} (finishes : Finishes pool outcome (.done result) history) :
    transfers history = [⟨.take, some pool⟩] := by
  cases finishes with
  | failed failure retires => exact transfers_of_retires retires
  | @reported counts elapsed last told retires telling =>
    rw [transfers_append, transfers_of_retires retires]
    show _ ++ transfers told = _
    rw [transfers_of_telling telling, List.append_nil]

/-- Whatever a run has taken by its end, it has given back. -/
theorem Course.balanced {seeder : Seeder} {result : Except Failure Report}
    (course : Course seeder config (.done result) history) : Balanced (transfers history) := by
  cases course with
  | invalid parsed => exact .nothing
  | unmade parsed misses =>
    rw [transfers_of_misses misses]
    exact .nothing
  | @made params pool line first history last outcome _ parsed establishes borrows finishes =>
    obtain ⟨idle, opened⟩ := transfers_of_establishes establishes
    have retired := transfers_of_finishes finishes
    cases outcome with
    | blocked => cases finishes
    | halted => cases finishes
    | done work =>
      have shape : transfers (first ++ ⟨.say line, ()⟩ :: (history ++ last)) =
          ⟨.install params maxConnections idle, pool⟩ ::
            (transfers history ++ [⟨.take, some pool⟩]) := by
        rw [transfers_append, opened, ← retired, ← transfers_append]
        rfl
      rw [shape]
      obtain ⟨fault, lent⟩ | ⟨connection, lent⟩ := transfers_of_borrows borrows
      · rw [lent]
        exact .unlent
      · rw [lent]
        exact .lent

/-- A run that nobody disturbs never finds a pool in its way. -/
theorem Course.welcome {seeder : Seeder} {result : Except Failure Report}
    (course : Course seeder config (.done result) history) :
    result ≠ .error .alreadyInitialized := by
  rintro rfl
  cases course with
  | made parsed establishes borrows finishes =>
    cases finishes with
    | failed failure retires =>
      cases borrows with
      | lent transacts => cases transacts

end

/-! ## Runs that follow one another -/

/-- A run that has returned. -/
structure Finished where
  config : Config
  before : World
  history : List Request.Done
  result : Except Failure Report
  after : World

/-- Runs that follow one another, and where they have led. Between two of them, the server and the
connections may change in any way. -/
inductive InTurn (start : World) : List Finished → World → Prop where
  | start : InTurn start [] start
  | next {runs : List Finished} {world before after : World} {result : Except Failure Report}
      (earlier : InTurn start runs world) (drift : World.Drift world before) (seeder : Seeder)
      (config : Config) (returned : before.run (seeder.run config) = (.done result, after)) :
      InTurn start (runs ++ [⟨config, before, seeder.history config before, result, after⟩]) after

/-- What holds for a run that nobody else has disturbed. -/
structure Orderly (run : Finished) : Prop where
  /-- It has made a pool and taken it away again, or neither, and in between it has given back the
  connection that it had borrowed, if any. -/
  balanced : Balanced (transfers run.history)
  /-- It leaves no pool behind. -/
  vacant : run.after.Vacant
  /-- It has not found any. -/
  welcome : run.result ≠ .error .alreadyInitialized

/-- What holds for a run that finds the pool of someone else. -/
structure TurnedAway (pool : PoolId) (run : Finished) : Prop where
  /-- It fails, unless it has failed before, and calls no routine. -/
  refused : ∀ params, ConnectionParams.parse run.config.postgres = .ok params →
    run.result = .error .alreadyInitialized ∧ run.history = [⟨.lock, some pool⟩, ⟨.unlock, ()⟩]
  /-- It leaves that pool in place, and everything else. -/
  holds : run.after.Holds pool
  untouched : run.after = run.before

/-- A run that returns is orderly, if it finds no pool. -/
theorem orderly_of_vacant {seeder : Seeder} {config : Config} {before after : World}
    {result : Except Failure Report} (vacant : before.Vacant)
    (returned : before.run (seeder.run config) = (.done result, after)) :
    Orderly ⟨config, before, seeder.history config before, result, after⟩ := by
  have ends : Course seeder config (before.run (seeder.run config)).1
      (seeder.history config before) ∧ ∀ value, (before.run (seeder.run config)).1 = .done value →
      (before.run (seeder.run config)).2.Vacant := meets_course seeder config vacant
  rw [returned] at ends
  exact ⟨ends.1.balanced, ends.2 result rfl, ends.1.welcome⟩

/-- A run that finds a pool only looks into the slot. -/
theorem meets_run_of_holds {seeder : Seeder} {config : Config} {before : World} {pool : PoolId}
    {params : ConnectionParams} (holds : before.Holds pool)
    (parsed : ConnectionParams.parse config.postgres = .ok params) :
    Meets World.perform (seeder.run config) before fun outcome history after =>
      outcome = .done (.error .alreadyInitialized) ∧
        history = [⟨.lock, some pool⟩, ⟨.unlock, ()⟩] ∧ after = before := by
  unfold run
  rw [parsed]
  refine meets_bind.mpr (meets_request.mpr ?_)
  rw [World.perform_lock_of_holds holds]
  refine ⟨rfl, rfl, ?_⟩
  show { before with locked := false } = before
  rw [← holds.2]

theorem turnedAway_of_holds {seeder : Seeder} {config : Config} {before after : World}
    {result : Except Failure Report} {pool : PoolId} (holds : before.Holds pool)
    (returned : before.run (seeder.run config) = (.done result, after)) :
    TurnedAway pool ⟨config, before, seeder.history config before, result, after⟩ := by
  cases parsed : ConnectionParams.parse config.postgres with
  | error fault =>
    have ends : before.run (seeder.run config) = (.done (.error (.invalidDsn fault)), before) := by
      rw [run, parsed]
      rfl
    rw [ends] at returned
    cases returned
    exact ⟨fun params accepted => (nomatch parsed.symm.trans accepted), holds, rfl⟩
  | ok params =>
    have ends : (before.run (seeder.run config)).1 = .done (.error .alreadyInitialized) ∧
      seeder.history config before = [⟨.lock, some pool⟩, ⟨.unlock, ()⟩] ∧
      (before.run (seeder.run config)).2 = before := meets_run_of_holds holds parsed
    rw [returned] at ends
    obtain ⟨same, asked, rfl⟩ := ends
    cases same
    exact ⟨fun _ _ => ⟨rfl, asked⟩, holds, rfl⟩

section

variable {start world : World} {runs : List Finished}

/-- Runs that follow one another find no pool, and leave none. -/
theorem InTurn.orderly (turns : InTurn start runs world) (vacant : start.Vacant) :
    world.Vacant ∧ ∀ run ∈ runs, Orderly run := by
  induction turns with
  | start => exact ⟨vacant, nofun⟩
  | next earlier drift seeder config returned ih =>
    have orderly := orderly_of_vacant (ih.1.drift drift) returned
    exact ⟨orderly.vacant, List.forall_mem_append.mpr
      ⟨ih.2, List.forall_mem_singleton.mpr orderly⟩⟩

/-- Runs that follow one another leave the pool of someone else alone. -/
theorem InTurn.turnedAway {pool : PoolId} (turns : InTurn start runs world)
    (holds : start.Holds pool) : world.Holds pool ∧ ∀ run ∈ runs, TurnedAway pool run := by
  induction turns with
  | start => exact ⟨holds, nofun⟩
  | next earlier drift seeder config returned ih =>
    have turned := turnedAway_of_holds (ih.1.drift drift) returned
    exact ⟨turned.holds, List.forall_mem_append.mpr
      ⟨ih.2, List.forall_mem_singleton.mpr turned⟩⟩

/-- Runs that follow one another give back all that they take, and find no pool unless there was one
from the start; that one they leave in place. -/
theorem balanced_inTurn (free : start.locked = false) (turns : InTurn start runs world) :
    (start.slot = none → ∀ run ∈ runs, Orderly run) ∧
      ∀ pool, start.slot = some pool → ∀ run ∈ runs, TurnedAway pool run :=
  ⟨fun empty => (turns.orderly ⟨empty, free⟩).2,
    fun _ filled => (turns.turnedAway ⟨filled, free⟩).2⟩

end

/-- A world without pools, whose server cannot be reached. -/
def remote : World where
  server := { behaviour := .absent }

/-- A world with the pool of someone else. -/
def occupied : World := { World.obliging with slot := some 3 }

/-- A run of a routine that tells two rows. -/
def counted : PoolProgram (Except Failure Report) :=
  run ⟨[⟨"a", fun _ => return .ok 2⟩]⟩ { postgres := "pg://h/d" }

/-- In the first run the server cannot be reached, but in the second one it can; and a run finds the
pool of someone else. -/
theorem balanced_inTurn_retried :
    (∃ runs world, InTurn remote runs world ∧
      runs.map (·.result) = [.error (.database .unreachable), .ok { routines := [("a", 2)] }] ∧
        ∀ run ∈ runs, Orderly run) ∧
    ∃ runs world, InTurn occupied runs world ∧
      runs.map (·.result) = [.error .alreadyInitialized] ∧ ∀ run ∈ runs, TurnedAway 3 run := by
  have failed : remote.run counted =
      (.done (.error (.database .unreachable)), (remote.run counted).2) :=
    Prod.ext (by decide +kernel) rfl
  have succeeded : World.obliging.run counted =
      (.done (.ok { routines := [("a", 2)] }), (World.obliging.run counted).2) :=
    Prod.ext (by decide +kernel) rfl
  have refused : occupied.run counted =
      (.done (.error .alreadyInitialized), (occupied.run counted).2) :=
    Prod.ext (by decide +kernel) rfl
  -- Between the two runs the server comes back, and nothing else has happened to the slot.
  have between : World.Drift (remote.run counted).2 .obliging :=
    ⟨by decide +kernel, by decide +kernel, by decide +kernel⟩
  have both := (InTurn.start.next (.refl remote) _ _ failed).next between _ _ succeeded
  have turned := InTurn.start.next (.refl occupied) _ _ refused
  exact ⟨⟨_, _, both, rfl, (balanced_inTurn rfl both).1 rfl⟩,
    _, _, turned, rfl, (balanced_inTurn rfl turned).2 3 rfl⟩

end Seeder
end Seedbed

import Seedbed.Proofs.Seeder.Phases

/-!
# The course of a run

All that a run can do if nobody else uses the pools: what it asks, in order, and how it ends. It is
said in four layers: the calls of the routines (`Calls`), the transaction around them (`Transacts`),
the connection that is borrowed for it (`Borrows`), and the pool that is made before and shut down
after that (`Course`). Routines may do what they like; what they do is kept apart as their errands.
-/

namespace Seedbed

open Program Database

namespace Seeder

variable {config : Config} {connection : ConnectionId} {world : World}

/-! ## The calls -/

/-- Work never waits; it ends with a value or suddenly. -/
theorem meets_errands (connection : ConnectionId) (work : Work α) (world : World) :
    Meets World.perform (through connection work) world fun outcome history _ =>
      ∃ errands, history = errands.map (Errand.via connection) ∧
        ((∃ value, outcome = .done value ∧ work.Yields errands value) ∨
          outcome = .halted ∧ work.Breaks errands) := by
  induction work generalizing world with
  | done value => exact ⟨[], rfl, .inl ⟨value, rfl, .done value⟩⟩
  | halt => exact ⟨[], rfl, .inr ⟨rfl, .halt⟩⟩
  | ask errand next ih =>
    -- Whatever the answer is, the errand comes first.
    have further (answer : errand.Answer) (middle : World) :
        Meets World.perform (through connection (next answer)) middle fun outcome later _ =>
          ∃ errands,
            Errand.via connection ⟨errand, answer⟩ :: later = errands.map (Errand.via connection) ∧
            ((∃ value, outcome = .done value ∧ (Program.ask errand next).Yields errands value) ∨
              outcome = .halted ∧ (Program.ask errand next).Breaks errands) := by
      refine (ih answer middle).mono ?_
      rintro outcome _ after ⟨errands, rfl, ⟨value, same, yields⟩ | ⟨same, breaks⟩⟩
      · exact ⟨⟨errand, answer⟩ :: errands, rfl, .inl ⟨value, same, .ask yields⟩⟩
      · exact ⟨⟨errand, answer⟩ :: errands, rfl, .inr ⟨same, .ask breaks⟩⟩
    cases errand with
    | send statement => exact meets_request.mpr (further _ _)
    | say line => exact meets_request.mpr (further () _)

/-- What comes of calling routines, and their errands. -/
inductive Calls (config : Config) (routines : List Routine) :
    Outcome (Except (String × Failure) (List (String × Nat))) → List Errand.Done → Prop where
  /-- All were called, and succeeded. -/
  | all {errands : List Errand.Done} {counts : List (String × Nat)}
      (served : Served config routines errands counts) :
      Calls config routines (.done (.ok counts)) errands
  /-- Some were called and succeeded, and the next one failed; the others were not called. -/
  | failed {earlier others : List Routine} {routine : Routine} {errands last : List Errand.Done}
      {counts : List (String × Nat)} {failure : Failure}
      (split : routines = earlier ++ routine :: others)
      (served : Served config earlier errands counts)
      (ended : (routine.seed config).Yields last (.error failure)) :
      Calls config routines (.done (.error (routine.name, failure))) (errands ++ last)
  /-- Some were called and succeeded, and the next one came to a sudden end. -/
  | broken {earlier others : List Routine} {routine : Routine} {errands last : List Errand.Done}
      {counts : List (String × Nat)} (split : routines = earlier ++ routine :: others)
      (served : Served config earlier errands counts) (ended : (routine.seed config).Breaks last) :
      Calls config routines .halted (errands ++ last)

theorem meets_calls (connection : ConnectionId) (config : Config) (routines : List Routine)
    (world : World) :
    Meets World.perform (callAll connection config routines) world fun outcome history _ =>
      ∃ errands, history = errands.map (Errand.via connection) ∧
        Calls config routines outcome errands := by
  induction routines generalizing world with
  | nil => exact ⟨[], rfl, .all .none⟩
  | cons routine rest ih =>
    refine meets_bind.mpr ((meets_errands connection _ world).mono ?_)
    rintro outcome _ middle ⟨errands, rfl, ⟨result, rfl, yields⟩ | ⟨rfl, breaks⟩⟩
    · cases result with
      | error failure =>
        refine meets_pure.mpr ⟨errands, List.append_nil _, ?_⟩
        exact .failed (List.nil_append _).symm .none yields
      | ok rows =>
        refine meets_bind.mpr ((ih middle).mono ?_)
        rintro outcome _ after ⟨later, rfl, calls⟩
        cases calls with
        | all served =>
          refine meets_pure.mpr ⟨errands ++ later, ?_, .all (.next yields served)⟩
          rw [List.append_nil, List.map_append]
        | @failed earlier others other early last counts failure split served ended =>
          refine meets_pure.mpr ⟨errands ++ early ++ last, ?_, ?_⟩
          · simp
          · exact .failed (by rw [split, List.cons_append]) (.next yields served) ended
        | @broken earlier others other early last counts split served ended =>
          refine ⟨errands ++ early ++ last, ?_, ?_⟩
          · simp
          · exact .broken (by rw [split, List.cons_append]) (.next yields served) ended
    · exact ⟨errands, rfl, .broken (List.nil_append _).symm .none breaks⟩

/-! ## The transaction -/

/-- Whether nothing was asked but what has to do with telling what happens. -/
def Telling (history : List Request.Done) : Prop := ∀ event ∈ history, event.request.Tells

/-- What comes of calling routines in one transaction over a connection. -/
inductive Transacts (connection : ConnectionId) (config : Config) (routines : List Routine) :
    Outcome (Except Failure (List (String × Nat))) → List Request.Done → Prop where
  | unbegun (fault : Fault) :
      Transacts connection config routines (.done (.error (.database fault)))
        [⟨.send connection .begin, .error fault⟩]
  /-- A routine failed, and there was a rollback, whatever came of that. -/
  | undone {affected : Nat} {errands : List Errand.Done} {name : String} {failure : Failure}
      {warning : Log.Line} {reply : Except Fault Nat} {told : List Request.Done}
      (calls : Calls config routines (.done (.error (name, failure))) errands)
      (telling : Telling told) :
      Transacts connection config routines (.done (.error (.routineFailed name failure)))
        (⟨.send connection .begin, .ok affected⟩ :: errands.map (Errand.via connection) ++
          ⟨.say warning, ()⟩ :: ⟨.send connection .rollback, reply⟩ :: told)
  /-- All routines succeeded, and there was a commit, which failed. -/
  | refused {affected : Nat} {errands : List Errand.Done} {counts : List (String × Nat)}
      {warning : Log.Line} (calls : Calls config routines (.done (.ok counts)) errands)
      (fault : Fault) :
      Transacts connection config routines
        (.done (.error (.routineFailed commitStep (.database fault))))
        (⟨.send connection .begin, .ok affected⟩ :: errands.map (Errand.via connection) ++
          [⟨.send connection .commit, .error fault⟩, ⟨.say warning, ()⟩])
  /-- All routines succeeded, and so did the commit. -/
  | committed {affected kept : Nat} {errands : List Errand.Done} {counts : List (String × Nat)}
      (calls : Calls config routines (.done (.ok counts)) errands) :
      Transacts connection config routines (.done (.ok counts))
        (⟨.send connection .begin, .ok affected⟩ :: errands.map (Errand.via connection) ++
          [⟨.send connection .commit, .ok kept⟩])
  | broken {affected : Nat} {errands : List Errand.Done}
      (calls : Calls config routines .halted errands) :
      Transacts connection config routines .halted
        (⟨.send connection .begin, .ok affected⟩ :: errands.map (Errand.via connection))

/-- A line in the log is no reason to wait, and leaves the slot alone. -/
theorem meets_say {world : World} {next : Unit → PoolProgram α} {level : Log.Level} {text : String}
    {condition : Outcome α → List Request.Done → World → Prop}
    (further : ∀ after, World.Drift world after → Meets World.perform (next ()) after
      fun outcome later => condition outcome
        (⟨.say { level, source := .seeder, text }, ()⟩ :: later)) :
    Meets World.perform (say level text >>= next) world condition := by
  refine meets_request.mpr (further _ ?_)
  split <;> exact ⟨rfl, rfl, rfl⟩

theorem meets_tellRollback (reply : Except Fault Nat) (world : World) :
    Meets World.perform (tellRollback reply) world fun outcome history _ =>
      outcome = .done () ∧ Telling history := by
  cases reply with
  | error fault => exact ⟨rfl, List.forall_mem_singleton.mpr trivial⟩
  | ok affected => exact ⟨rfl, nofun⟩

theorem meets_rollBack (connection : ConnectionId) (routine : String) (failure : Failure)
    (world : World) :
    Meets World.perform (rollBack connection routine failure) world fun outcome history _ =>
      outcome = .done (.routineFailed routine failure) ∧ ∃ warning reply told, Telling told ∧
        history = ⟨.say warning, ()⟩ :: ⟨.send connection .rollback, reply⟩ :: told := by
  refine meets_say fun middle _ => meets_request.mpr ?_
  rw [World.perform_send]
  refine meets_bind.mpr ((meets_tellRollback _ _).mono ?_)
  rintro outcome told after ⟨rfl, telling⟩
  exact meets_pure.mpr ⟨rfl, _, _, told, telling, by rw [List.append_nil]⟩

theorem meets_transacts (seeder : Seeder) (connection : ConnectionId) (config : Config)
    (world : World) :
    Meets World.perform (seeder.inTransaction connection config) world fun outcome history _ =>
      Transacts connection config seeder.routines outcome history := by
  refine meets_request.mpr ?_
  rw [World.perform_send]
  cases (world.server.answer connection .begin).1 with
  | error fault => exact .unbegun fault
  | ok affected =>
    refine meets_bind.mpr ((meets_calls connection config seeder.routines _).mono ?_)
    rintro outcome _ middle ⟨errands, rfl, calls⟩
    cases outcome with
    | blocked => cases calls
    | halted => exact .broken calls
    | done result =>
      cases result with
      | error failed =>
        obtain ⟨name, failure⟩ := failed
        refine meets_bind.mpr ((meets_rollBack connection name failure middle).mono ?_)
        rintro _ _ after ⟨rfl, warning, reply, told, telling, rfl⟩
        refine meets_pure.mpr ?_
        rw [List.append_nil]
        exact .undone calls telling
      | ok counts =>
        refine meets_request.mpr ?_
        rw [World.perform_send]
        cases (middle.server.answer connection .commit).1 with
        | error fault => exact meets_say fun after _ => meets_pure.mpr (.refused calls fault)
        | ok kept => exact meets_pure.mpr (.committed calls)

theorem works_rollBack (connection : ConnectionId) (routine : String) (failure : Failure) :
    (rollBack connection routine failure).Asks Request.Works :=
  And.intro trivial fun _ => And.intro trivial fun reply =>
    ((tells_tellRollback reply).mono Request.Tells.works).bind fun _ => trivial

theorem works_inTransaction (seeder : Seeder) (connection : ConnectionId) (config : Config) :
    (seeder.inTransaction connection config).Asks Request.Works := by
  refine And.intro trivial fun reply => ?_
  cases (reply : Except Fault Nat) with
  | error fault => exact trivial
  | ok affected =>
    refine (works_callAll connection config seeder.routines).bind fun result => ?_
    cases result with
    | error failed => exact (works_rollBack connection failed.1 failed.2).bind fun _ => trivial
    | ok counts =>
      refine And.intro trivial fun reply => ?_
      cases (reply : Except Fault Nat) with
      | error fault => exact And.intro trivial fun _ => trivial
      | ok kept => exact trivial

end Seeder

/-! ## The slot -/

namespace World

/-- Whether a pool can be made: there is none in the slot, which is not locked. -/
def Vacant (world : World) : Prop := world.slot = none ∧ world.locked = false

/-- Whether a pool can be seen in the slot. -/
def Holds (world : World) (pool : PoolId) : Prop := world.slot = some pool ∧ world.locked = false

theorem Drift.trans {first second third : World} (drift : Drift first second)
    (further : Drift second third) : Drift first third :=
  ⟨further.slot.trans drift.slot, further.locked.trans drift.locked, further.made.trans drift.made⟩

variable {world after : World} {pool : PoolId}

theorem Vacant.drift (vacant : world.Vacant) (drift : Drift world after) : after.Vacant :=
  ⟨drift.slot.trans vacant.1, drift.locked.trans vacant.2⟩

theorem Holds.drift (holds : world.Holds pool) (drift : Drift world after) : after.Holds pool :=
  ⟨drift.slot.trans holds.1, drift.locked.trans holds.2⟩

/-- A program that has nothing to do with the slot leaves it alone. -/
theorem meets_drift {program : PoolProgram α} (asks : program.Asks Request.Aside) (world : World) :
    Meets perform program world fun _ _ after => Drift world after := by
  refine run_keeps Drift .refl .trans ?_ asks world
  exact fun aside answered => drift_perform answered aside

theorem perform_current_of_holds (holds : world.Holds pool) :
    perform .current world = some (some pool, world) := by
  rw [perform, holds.1, holds.2]
  rfl

theorem perform_lock_of_vacant (vacant : world.Vacant) :
    perform .lock world = some (none, { world with locked := true }) := by
  rw [perform, vacant.1, vacant.2]
  rfl

theorem perform_lock_of_holds (holds : world.Holds pool) :
    perform .lock world = some (some pool, { world with locked := true }) := by
  rw [perform, holds.1, holds.2]
  rfl

theorem perform_take_of_holds (holds : world.Holds pool) :
    perform .take world = some (some pool, { world with slot := none }) := by
  rw [perform, holds.1, holds.2]
  rfl

theorem perform_connect (params : ConnectionParams) (world : World) :
    perform (.connect params) world =
      some ((world.server.connect params).1,
        { world with server := (world.server.connect params).2 }) := rfl

end World

namespace Seeder

/-! ## The connection -/

/-- What comes of calling routines over a connection that is borrowed from a pool. -/
inductive Borrows (pool : PoolId) (config : Config) (routines : List Routine) :
    Outcome (Except Failure (List (String × Nat))) → List Request.Done → Prop where
  /-- There is no connection, and none comes. -/
  | waits : Borrows pool config routines .blocked [⟨.current, some pool⟩]
  | refused (fault : Fault) :
      Borrows pool config routines (.done (.error (.database fault)))
        [⟨.current, some pool⟩, ⟨.checkOut pool, .error fault⟩]
  | lent {connection : ConnectionId} {result : Except Failure (List (String × Nat))}
      {history : List Request.Done}
      (transacts : Transacts connection config routines (.done result) history) :
      Borrows pool config routines (.done result)
        (⟨.current, some pool⟩ :: ⟨.checkOut pool, .ok connection⟩ :: history ++
          [⟨.giveBack connection, ()⟩])
  | broken {connection : ConnectionId} {history : List Request.Done}
      (transacts : Transacts connection config routines .halted history) :
      Borrows pool config routines .halted
        (⟨.current, some pool⟩ :: ⟨.checkOut pool, .ok connection⟩ :: history)

theorem meets_borrows (seeder : Seeder) (config : Config) {world : World} {pool : PoolId}
    (holds : world.Holds pool) :
    Meets World.perform (seeder.withConnection config) world fun outcome history after =>
      Borrows pool config seeder.routines outcome history ∧ World.Drift world after := by
  refine meets_request.mpr ?_
  rw [World.perform_current_of_holds holds]
  refine meets_request.mpr ?_
  cases answered : World.perform (.checkOut pool) world with
  | none => exact ⟨.waits, .refl world⟩
  | some pair =>
    obtain ⟨lent, middle⟩ := pair
    have drift := World.drift_perform answered trivial
    cases lent with
    | error fault => exact ⟨.refused fault, drift⟩
    | ok connection =>
      have aside := (works_inTransaction seeder connection config).mono Request.Works.aside
      refine meets_bind.mpr (((meets_transacts seeder connection config middle).and
        (World.meets_drift aside middle)).mono ?_)
      rintro outcome history after ⟨transacts, further⟩
      cases outcome with
      | blocked => cases transacts
      | halted => exact ⟨.broken transacts, drift.trans further⟩
      | done result =>
        refine meets_request.mpr ?_
        exact ⟨.lent transacts, (drift.trans further).trans (World.drift_giveBack after connection)⟩

/-! ## The pool -/

/-- What was asked when a pool was made for a run. -/
inductive Establishes (params : ConnectionParams) (pool : PoolId) : List Request.Done → Prop where
  | opened {opening : List Request.Done} {idle : List ConnectionId}
      (opens : (PoolManager.firstConnections true params minConnections).Yields opening
        (.ok idle)) :
      Establishes params pool (⟨.lock, none⟩ :: opening ++
        [⟨.install params maxConnections idle, pool⟩, ⟨.unlock, ()⟩])

/-- What was asked when no pool could be made for a run. -/
inductive Misses (params : ConnectionParams) (fault : Fault) : List Request.Done → Prop where
  | unopened {opening : List Request.Done}
      (opens : (PoolManager.firstConnections true params minConnections).Yields opening
        (.error fault)) :
      Misses params fault (⟨.lock, none⟩ :: opening ++ [⟨.unlock, ()⟩])

theorem meets_connectMany (params : ConnectionParams) (count : Nat) (world : World) :
    Meets World.perform (PoolManager.connectMany params count) world fun outcome _ _ =>
      ∃ reply, outcome = .done reply := by
  induction count generalizing world with
  | zero => exact ⟨_, rfl⟩
  | succ count ih =>
    refine meets_request.mpr ?_
    rw [World.perform_connect]
    cases (world.server.connect params).1 with
    | error fault => exact ⟨_, rfl⟩
    | ok connection =>
      refine meets_bind.mpr ((ih _).mono ?_)
      rintro _ _ middle ⟨reply, rfl⟩
      cases reply with
      | error fault => exact meets_request.mpr ⟨_, rfl⟩
      | ok connections => exact ⟨_, rfl⟩

/-- The first connections are opened or not, but nobody waits for them for ever. -/
theorem meets_firstConnections (params : ConnectionParams) (count : Nat) (world : World) :
    Meets World.perform (PoolManager.firstConnections true params count) world fun outcome _ _ =>
      ∃ reply, outcome = .done reply := by
  refine meets_bind.mpr (meets_request.mpr ?_)
  rw [World.perform_connect]
  cases (world.server.connect params).1 with
  | error fault => exact ⟨_, rfl⟩
  | ok connection => exact meets_request.mpr (meets_connectMany params count _)

theorem meets_establish (params : ConnectionParams) {world : World} (vacant : world.Vacant) :
    Meets World.perform (PoolManager.establish minConnections maxConnections params) world
      fun outcome history after =>
        (∃ pool, outcome = .done (.ok ()) ∧ Establishes params pool history ∧ after.Holds pool) ∨
          ∃ fault, outcome = .done (.error (.database fault)) ∧ Misses params fault history ∧
            after.Vacant := by
  refine meets_request.mpr ?_
  rw [World.perform_lock_of_vacant vacant]
  have aside := (PoolManager.asks_firstConnections true params minConnections).mono
    Request.Opens.aside
  refine meets_bind.mpr (meets_bind.mpr ((((meets_firstConnections params minConnections _).and
    (meets_answered _ _)).and (World.meets_drift aside _)).mono ?_))
  rintro _ opening middle ⟨⟨⟨reply, rfl⟩, yields, -⟩, drift⟩
  cases reply with
  | error fault =>
    refine meets_pure.mpr (meets_request.mpr (.inr ⟨fault, rfl, ?_, ?_⟩))
    · rw [List.append_nil]
      exact .unopened (yields _ rfl)
    · exact ⟨drift.slot.trans vacant.1, rfl⟩
  | ok idle =>
    refine meets_request.mpr (meets_pure.mpr (meets_request.mpr ?_))
    refine .inl ⟨middle.pools.length, rfl, ?_, rfl, rfl⟩
    rw [List.append_assoc]
    exact .opened (yields _ rfl)

/-- What was asked when a pool was taken out of the slot again, to be closed now or later. -/
inductive Retires (pool : PoolId) : List Request.Done → Prop where
  | now : Retires pool [⟨.take, some pool⟩, ⟨.outstanding pool, 0⟩, ⟨.close pool, ()⟩]
  | later (out : Nat) :
    Retires pool [⟨.take, some pool⟩, ⟨.outstanding pool, out + 1⟩, ⟨.closeLater pool, ()⟩]

theorem meets_retires {world : World} {pool : PoolId} (holds : world.Holds pool) :
    Meets World.perform PoolManager.shutdown world fun outcome history after =>
      outcome = .done () ∧ Retires pool history ∧ after.Vacant := by
  refine meets_request.mpr ?_
  rw [World.perform_take_of_holds holds]
  refine meets_request.mpr ?_
  show Meets World.perform (PoolManager.retire pool (World.outstanding _ pool)) _ _
  cases World.outstanding { world with slot := none } pool with
  | zero => exact ⟨rfl, .now, rfl, holds.2⟩
  | succ out => exact ⟨rfl, .later out, rfl, holds.2⟩

/-! ## The whole -/

/-- How a run goes on after its work, depending on what came of that, and how it ends. -/
inductive Finishes (pool : PoolId) : Outcome (Except Failure (List (String × Nat))) →
    Outcome (Except Failure Report) → List Request.Done → Prop where
  | waits : Finishes pool .blocked .blocked []
  | broken : Finishes pool .halted .halted []
  | failed {last : List Request.Done} (failure : Failure) (retires : Retires pool last) :
      Finishes pool (.done (.error failure)) (.done (.error failure)) last
  | reported {counts : List (String × Nat)} {elapsed : Nat} {last told : List Request.Done}
      (retires : Retires pool last) (telling : Telling told) :
      Finishes pool (.done (.ok counts)) (.done (.ok { routines := counts, elapsed }))
        (last ++ ⟨.elapsed, elapsed⟩ :: told)
  /-- The number of all rows, which someone wants to know, is no count. -/
  | overflown {counts : List (String × Nat)} {elapsed : Nat} {last : List Request.Done}
      (retires : Retires pool last)
      (tooMany : { routines := counts, elapsed : Report }.totalRows? = none) :
      Finishes pool (.done (.ok counts)) .halted
        (last ++ [⟨.elapsed, elapsed⟩, ⟨.listens .info .seeder, true⟩])

/-- All that can come of a run, and what it has asked by then. -/
inductive Course (seeder : Seeder) (config : Config) :
    Outcome (Except Failure Report) → List Request.Done → Prop where
  | invalid {fault : Url.Fault} (parsed : ConnectionParams.parse config.postgres = .error fault) :
      Course seeder config (.done (.error (.invalidDsn fault))) []
  | unmade {params : ConnectionParams} {fault : Fault} {history : List Request.Done}
      (parsed : ConnectionParams.parse config.postgres = .ok params)
      (misses : Misses params fault history) :
      Course seeder config (.done (.error (.database fault))) history
  | made {params : ConnectionParams} {pool : PoolId} {line : Log.Line}
      {first history last : List Request.Done}
      {outcome : Outcome (Except Failure (List (String × Nat)))}
      {ended : Outcome (Except Failure Report)}
      (parsed : ConnectionParams.parse config.postgres = .ok params)
      (establishes : Establishes params pool first)
      (borrows : Borrows pool config seeder.routines outcome history)
      (finishes : Finishes pool outcome ended last) :
      Course seeder config ended (first ++ ⟨.say line, ()⟩ :: (history ++ last))

theorem meets_announce (report : Report) (world : World) :
    Meets World.perform (announce report) world fun outcome history _ =>
      outcome = .done () ∧ Telling history ∨
        outcome = .halted ∧ report.totalRows? = none ∧
          history = [⟨.listens .info .seeder, true⟩] := by
  refine meets_request.mpr ?_
  show Meets World.perform (if world.listens .info .seeder then _ else _) world _
  cases world.listens .info .seeder with
  | false => exact .inl ⟨rfl, List.forall_mem_singleton.mpr trivial⟩
  | true =>
    rw [if_pos rfl]
    split
    · rename_i tooMany
      exact .inr ⟨rfl, tooMany, rfl⟩
    · refine .inl ⟨rfl, ?_⟩
      exact List.forall_mem_cons.mpr ⟨trivial, List.forall_mem_singleton.mpr trivial⟩

/-- Once the work is done, the slot is empty again. -/
theorem meets_finishes {world : World} {pool : PoolId} (holds : world.Holds pool)
    (outcome : Except Failure (List (String × Nat))) :
    Meets World.perform (do
      PoolManager.shutdown
      match outcome with
      | .error failure => return .error failure
      | .ok routines =>
        let elapsed : Nat ← Program.request Request.elapsed
        let report : Report := { routines, elapsed }
        announce report
        return .ok report) world fun ended history after =>
      Finishes pool (.done outcome) ended history ∧ after.Vacant := by
  refine meets_bind.mpr ((meets_retires holds).mono ?_)
  rintro _ last middle ⟨rfl, retires, vacant⟩
  cases outcome with
  | error failure =>
    refine meets_pure.mpr ⟨?_, vacant⟩
    rw [List.append_nil]
    exact .failed failure retires
  | ok counts =>
    have aside := (tells_announce { routines := counts, elapsed := middle.elapsed }).mono
      fun tells => tells.works.aside
    refine meets_request.mpr (meets_bind.mpr (((meets_announce _ middle).and
      (World.meets_drift aside middle)).mono ?_))
    rintro _ told after ⟨⟨rfl, telling⟩ | ⟨rfl, tooMany, rfl⟩, drift⟩
    · refine meets_pure.mpr ⟨?_, vacant.drift drift⟩
      rw [List.append_nil]
      exact .reported retires telling
    · exact ⟨.overflown retires tooMany, vacant.drift drift⟩

/-- What a run asks and how it ends, if nobody else uses the pools. Once it has ended, a pool can be
made again. -/
theorem meets_course (seeder : Seeder) (config : Config) {world : World} (vacant : world.Vacant) :
    Meets World.perform (seeder.run config) world fun outcome history after =>
      Course seeder config outcome history ∧
        ∀ result, outcome = .done result → after.Vacant := by
  unfold run
  cases parsed : ConnectionParams.parse config.postgres with
  | error fault => exact ⟨.invalid parsed, fun _ _ => vacant⟩
  | ok params =>
    refine meets_bind.mpr ((meets_establish params vacant).mono ?_)
    rintro _ first middle (⟨pool, rfl, establishes, holds⟩ | ⟨fault, rfl, misses, vacant⟩)
    · refine meets_say fun told drift => meets_bind.mpr ?_
      refine (meets_borrows seeder config (holds.drift drift)).mono ?_
      rintro outcome history after ⟨borrows, further⟩
      cases outcome with
      | blocked =>
        rw [← List.append_nil history]
        exact ⟨.made parsed establishes borrows .waits, nofun⟩
      | halted =>
        rw [← List.append_nil history]
        exact ⟨.made parsed establishes borrows .broken, nofun⟩
      | done result =>
        refine (meets_finishes ((holds.drift drift).drift further) result).mono ?_
        rintro ended last final ⟨finishes, vacant⟩
        exact ⟨.made parsed establishes borrows finishes, fun _ _ => vacant⟩
    · refine meets_pure.mpr ⟨?_, fun _ _ => vacant⟩
      rw [List.append_nil]
      exact .unmade parsed misses

end Seeder
end Seedbed

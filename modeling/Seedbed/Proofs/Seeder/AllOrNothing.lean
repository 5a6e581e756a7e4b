import Seedbed.Proofs.Seeder.Work

/-!
# All or nothing

How the rows of a run fare. A run either sends no commit, and then nothing of it is kept; or all of
its routines were served in the transaction that its commit settles (`meets_inTransaction`). What
the run does before the transaction and after it keeps no rows.
-/

namespace Seedbed

open Program Database
open Database.Server (Quiet Settled)

/-- The numbers of rows that routines have told. -/
abbrev Counts := List (String × Nat)

/-- Whether no commit was sent. -/
def Uncommitted (history : List Request.Done) : Prop :=
  ∀ event ∈ history, ∀ connection, event.request ≠ .send connection .commit

/-- A run has sent a commit: all of its routines were served over a connection, in order, between
the beginning of a transaction and the commit, which got a reply. -/
structure Attempt (seeder : Seeder) (config : Config) (history : List Request.Done)
    (connection : ConnectionId) (errands : List Errand.Done) (counts : Counts)
    (reply : Except Fault Nat) : Prop where
  served : Served config seeder.routines errands counts
  asked : ∃ prior begun later, history =
    prior ++ ⟨.send connection .begin, .ok begun⟩ :: errands.map (Errand.via connection) ++
      ⟨.send connection .commit, reply⟩ :: later

/-- What a run ends with after the reply to its commit. -/
def concluded (reply : Except Fault Nat) (counts : Counts) : Except Failure Counts :=
  match reply with
  | .error fault => .error (.routineFailed Seeder.commitStep (.database fault))
  | .ok _ => .ok counts

/-- How the rows of a run fare, up to some outcome, of which a part is read. -/
inductive Fate (seeder : Seeder) (config : Config) (read : α → Except Failure Counts)
    (before : Server) (outcome : Outcome α) (history : List Request.Done) (after : Server) :
    Prop where
  | unsent (silent : Uncommitted history)
      (failed : ∀ value, outcome = .done value → ∃ failure, read value = .error failure)
      (quiet : Quiet before after)
  | sent {connection : ConnectionId} {errands : List Errand.Done} {counts : Counts}
      {reply : Except Fault Nat}
      (attempt : Attempt seeder config history connection errands counts reply)
      (told : ∀ value, outcome = .done value → read value = concluded reply counts)
      (settled : Settled connection (exchanges errands) reply before after)

section

variable {seeder : Seeder} {config : Config}

/-! ## Around the transaction -/

theorem uncommitted_append {earlier later : List Request.Done} (first : Uncommitted earlier)
    (second : Uncommitted later) : Uncommitted (earlier ++ later) :=
  List.forall_mem_append.mpr ⟨first, second⟩

/-- A quiet program sends no commit, and keeps no rows. -/
theorem meets_quiet {program : PoolProgram α} (asks : program.Asks Request.Quiet) (world : World) :
    Meets World.perform program world fun _ history after =>
      Uncommitted history ∧ Quiet world.server after.server := by
  refine ⟨?_, World.quiet_run asks world⟩
  intro event member connection same
  have quiet := permitted_of_mem_events asks world event member
  rw [same] at quiet
  rcases quiet with quiet | quiet <;> cases quiet

theorem Attempt.append {history : List Request.Done} {connection : ConnectionId}
    {errands : List Errand.Done} {counts : Counts} {reply : Except Fault Nat}
    (attempt : Attempt seeder config history connection errands counts reply)
    (earlier more : List Request.Done) :
    Attempt seeder config (earlier ++ history ++ more) connection errands counts reply := by
  obtain ⟨prior, begun, later, asked⟩ := attempt.asked
  refine ⟨attempt.served, earlier ++ prior, begun, later ++ more, ?_⟩
  rw [asked]
  simp only [List.append_assoc, List.cons_append]

variable {read : α → Except Failure Counts} {read' : β → Except Failure Counts}

/-- What a quiet program does before does not matter. -/
theorem Fate.before {first before after : Server} {outcome : Outcome α}
    {earlier history : List Request.Done} (silent : Uncommitted earlier)
    (early : Quiet first before) (fate : Fate seeder config read before outcome history after) :
    Fate seeder config read first outcome (earlier ++ history) after := by
  cases fate with
  | unsent silentLater failed quiet =>
    exact .unsent (uncommitted_append silent silentLater) failed (early.trans quiet)
  | sent attempt told settled =>
    refine .sent (List.append_nil (earlier ++ history) ▸ attempt.append earlier []) told ?_
    exact .around early settled (.refl after)

/-- What a quiet program does afterwards does not matter, unless it changes the outcome. -/
theorem Fate.after {before after last : Server} {outcome : Outcome α} {outcome' : Outcome β}
    {history later : List Request.Done}
    (fate : Fate seeder config read before outcome history after) (silent : Uncommitted later)
    (late : Quiet after last)
    (agrees : ∀ value', outcome' = .done value' →
      ∃ value, outcome = .done value ∧ read' value' = read value) :
    Fate seeder config read' before outcome' (history ++ later) last := by
  cases fate with
  | unsent silentBefore failed quiet =>
    refine .unsent (uncommitted_append silentBefore silent) (fun value' ended => ?_)
      (quiet.trans late)
    obtain ⟨value, done, same⟩ := agrees value' ended
    rw [same]
    exact failed value done
  | sent attempt told settled =>
    refine .sent (attempt.append [] later) (fun value' ended => ?_)
      (.around (.refl before) settled late)
    obtain ⟨value, done, same⟩ := agrees value' ended
    rw [same]
    exact told value done

/-- A run goes on quietly, to an end that tells the same. -/
theorem Fate.meets_tail {before : Server} {middle : World} {value : α}
    {history : List Request.Done} {next : PoolProgram β}
    (fate : Fate seeder config read before (.done value) history middle.server)
    (asks : next.Asks Request.Quiet)
    (ends : Returns World.perform next middle fun value' _ => read' value' = read value) :
    Meets World.perform next middle fun outcome later after =>
      Fate seeder config read' before outcome (history ++ later) after.server := by
  refine ((meets_quiet asks middle).and ends).mono ?_
  rintro outcome later after ⟨⟨silent, quiet⟩, same⟩
  exact fate.after silent quiet fun value' ended => ⟨value, rfl, same value' ended⟩

theorem meets_fate_bind {program : PoolProgram α} {next : α → PoolProgram β} {world : World}
    (first : Meets World.perform program world fun outcome history after =>
      Fate seeder config read world.server outcome history after.server)
    (asks : ∀ value, (next value).Asks Request.Quiet)
    (ends : ∀ value middle,
      Returns World.perform (next value) middle fun value' _ => read' value' = read value) :
    Meets World.perform (program >>= next) world fun outcome history after =>
      Fate seeder config read' world.server outcome history after.server := by
  refine meets_bind.mpr (first.mono fun outcome history middle fate => ?_)
  cases outcome with
  | done value => exact fate.meets_tail (asks value) (ends value middle)
  | halted => exact List.append_nil history ▸ fate.after nofun (.refl _) nofun
  | blocked => exact List.append_nil history ▸ fate.after nofun (.refl _) nofun

theorem meets_fate_of_quiet {program : PoolProgram α} {next : α → PoolProgram β} {world : World}
    (asks : program.Asks Request.Quiet)
    (further : Returns World.perform program world fun value middle =>
      Meets World.perform (next value) middle fun outcome history after =>
        Fate seeder config read' middle.server outcome history after.server) :
    Meets World.perform (program >>= next) world fun outcome history after =>
      Fate seeder config read' world.server outcome history after.server := by
  refine meets_bind.mpr (((meets_quiet asks world).and further).mono ?_)
  rintro outcome history middle ⟨⟨silent, quiet⟩, meets⟩
  cases outcome with
  | done value =>
    exact (meets value rfl).mono fun outcome later after fate => fate.before silent quiet
  | halted => exact .unsent silent nofun quiet
  | blocked => exact .unsent silent nofun quiet

theorem meets_fate_error {world : World} {value : β} {failure : Failure}
    (failed : read' value = .error failure) :
    Meets World.perform (pure value) world fun outcome history after =>
      Fate seeder config read' world.server outcome history after.server := by
  refine meets_pure.mpr (.unsent nofun (fun last same => ?_) (.refl world.server))
  cases same
  exact ⟨failure, failed⟩

/-! ## The parts of a run -/

theorem Worked.silent {connection : ConnectionId} {earlier : List Exchange} {before after : World}
    {errands : List Errand.Done} {history : List Request.Done}
    (worked : Worked connection earlier before errands history after) : Uncommitted history := by
  intro event member other same
  rw [worked.asked] at member
  obtain ⟨errand, run, rfl⟩ := List.mem_map.mp member
  have plain := worked.plain errand run
  obtain ⟨errand, answer⟩ := errand
  cases errand with
  | send statement => cases same; exact plain (.inr (.inl rfl))
  | say line => cases same

namespace Seeder

theorem asks_say (level : Log.Level) (text : String) : (say level text).Asks Request.Quiet :=
  (tells_say level text).mono Request.Tells.quiet

theorem asks_rollBack (connection : ConnectionId) (routine : String) (failure : Failure) :
    (rollBack connection routine failure).Asks Request.Quiet :=
  (asks_say _ _).bind fun _ => And.intro (.inr rfl) fun reply =>
    ((tells_tellRollback reply).mono Request.Tells.quiet).bind fun _ => trivial

theorem returns_rollBack (connection : ConnectionId) (routine : String) (failure : Failure)
    (world : World) :
    Returns World.perform (rollBack connection routine failure) world fun told _ =>
      told = .routineFailed routine failure :=
  returns_bind fun _ _ => returns_bind fun _ _ => returns_bind fun _ _ => returns_pure rfl

section

variable {before server : Server} {world middle : World} {connection : ConnectionId}
  {history : List Request.Done} {reply : Except Fault Nat}

/-- What is rolled back was not committed. -/
theorem meets_rolledBack (silent : Uncommitted history) (quiet : Quiet before middle.server)
    (routine : String) (failure : Failure) :
    Meets World.perform
      (do return .error (← rollBack connection routine failure) : PoolProgram (Except Failure Counts))
      middle fun outcome later after =>
        Fate seeder config id before outcome (history ++ later) after.server := by
  have fate : Fate seeder config id before (.done (.error (.routineFailed routine failure))) history
      middle.server := by
    refine .unsent silent (fun value same => ?_) quiet
    cases same
    exact ⟨_, rfl⟩
  refine fate.meets_tail ((asks_rollBack connection routine failure).bind fun _ => trivial) ?_
  refine returns_bind ((returns_rollBack connection routine failure middle).mono ?_)
  rintro _ last rfl
  exact returns_pure rfl

/-- The commit after all routines were served. -/
theorem fate_of_committed (begun : Quiet before world.server) {errands : List Errand.Done}
    (worked : Worked connection [] world errands history middle) {counts : Counts}
    (served : Served config seeder.routines errands counts)
    (committed : middle.server.answer connection .commit = (reply, server)) (affected : Nat) :
    Fate seeder config id before (.done (concluded reply counts))
      (⟨.send connection .begin, .ok affected⟩ :: history ++ [⟨.send connection .commit, reply⟩])
      server := by
  have settled := Server.settled_answer_commit worked.stands
  rw [committed] at settled
  refine .sent ⟨served, [], affected, [], ?_⟩ (fun value same => ?_)
    (.around (begun.trans worked.quiet) settled (.refl server))
  · rw [worked.asked]
    rfl
  · cases same
    rfl

/-- What a run does about the reply to its commit. -/
theorem meets_committed (middle : World) {counts : Counts} {event : Request.Done} :
    Fate seeder config id before (.done (concluded reply counts)) (history ++ [event])
      middle.server →
    Meets World.perform
      (match reply with
        | .error fault => do
          say .warn ("Commit failed, transaction rolled back: " ++ fault.message)
          return .error (.routineFailed commitStep (.database fault))
        | .ok _ => return .ok counts : PoolProgram (Except Failure Counts))
      middle fun outcome later after =>
        Fate seeder config id before outcome (history ++ event :: later) after.server := by
  intro fate
  have regroup {outcome : Outcome (Except Failure Counts)} {later : List Request.Done}
      {after : Server}
      (fate : Fate seeder config id before outcome (history ++ [event] ++ later) after) :
      Fate seeder config id before outcome (history ++ event :: later) after := by
    rwa [List.append_cons]
  refine Meets.mono ?_ fun outcome later after => regroup
  cases reply with
  | error fault =>
    exact fate.meets_tail ((asks_say .warn _).bind fun _ => trivial)
      (returns_bind fun _ _ => returns_pure rfl)
  | ok => exact fate.meets_tail trivial (returns_pure rfl)

end

/-- Over a connection that is outside of a transaction, a transaction is what decides about the rows
of a run. -/
theorem meets_inTransaction (plain : ∀ routine ∈ seeder.routines, routine.Plain)
    {connection : ConnectionId} {world : World} (idle : world.server.session connection = .idle) :
    Meets World.perform (seeder.inTransaction connection config) world fun outcome history after =>
      Fate seeder config id world.server outcome history after.server := by
  have begun := world.server.quiet_answer_begin connection
  have beginning (reply : Except Fault Nat) :
      Uncommitted [⟨.send connection .begin, reply⟩] :=
    List.forall_mem_singleton.mpr nofun
  refine meets_request.mpr ?_
  cases answered : world.server.answer connection .begin with
  | mk reply server =>
  rw [answered] at begun
  rw [World.perform_send, answered]
  cases reply with
  | error fault =>
    refine meets_pure.mpr (.unsent (beginning _) (fun value ended => ?_) begun)
    cases ended
    exact ⟨_, rfl⟩
  | ok affected =>
    have stands : (server.session connection).Stands [] := by
      rw [Server.session_answer_begin idle answered]
      exact .pending nofun
    refine meets_bind.mpr ((meets_callAll plain config stands).mono ?_)
    rintro outcome history middle ⟨errands, worked, served⟩
    have silent := uncommitted_append (beginning (.ok affected)) worked.silent
    have quiet := begun.trans worked.quiet
    cases outcome with
    | halted => exact .unsent silent nofun quiet
    | blocked => exact .unsent silent nofun quiet
    | done result =>
      cases result with
      | error failed => exact meets_rolledBack silent quiet failed.1 failed.2
      | ok counts =>
        refine meets_request.mpr ?_
        rw [World.perform_send]
        cases committed : middle.server.answer connection .commit with
        | mk reply server =>
        have fate := fate_of_committed begun worked (served counts rfl) committed affected
        exact meets_committed { middle with server } fate

theorem returns_say {world : World} {level : Log.Level} {text : String}
    (clean : PoolManager.Clean world) :
    Returns World.perform (say level text) world fun _ after => PoolManager.Clean after := by
  refine returns_request fun _ after answered => returns_pure ?_
  cases answered
  split <;> exact clean

theorem meets_withConnection (plain : ∀ routine ∈ seeder.routines, routine.Plain) {world : World}
    (clean : PoolManager.Clean world) :
    Meets World.perform (seeder.withConnection config) world fun outcome history after =>
      Fate seeder config id world.server outcome history after.server := by
  refine meets_fate_of_quiet PoolManager.asks_acquire
    ((PoolManager.returns_acquire clean).mono fun lent middle idle => ?_)
  cases lent with
  | error failure => exact meets_fate_error rfl
  | ok connection =>
    refine meets_fate_bind (meets_inTransaction plain (idle connection rfl))
      (fun outcome => And.intro trivial fun _ => trivial) fun outcome after => ?_
    exact returns_bind fun _ _ => returns_pure rfl

/-- How the rows of a run fare. -/
theorem meets_run (config : Config) (plain : ∀ routine ∈ seeder.routines, routine.Plain)
    (world : World) :
    Meets World.perform (seeder.run config) world fun outcome history after =>
      Fate seeder config (Except.map Report.routines) world.server outcome history
        after.server := by
  unfold run
  cases ConnectionParams.parse config.postgres with
  | error fault => exact meets_fate_error rfl
  | ok params =>
    refine meets_fate_of_quiet (PoolManager.asks_make true minConnections maxConnections params)
      ((PoolManager.returns_make true _ _ params world).mono fun made filled clean => ?_)
    cases made with
    | error failure => exact meets_fate_error rfl
    | ok =>
      refine meets_fate_of_quiet (asks_say _ _)
        ((returns_say (clean rfl)).mono fun _ middle clean => ?_)
      refine meets_fate_bind (meets_withConnection plain clean) (fun result => ?_)
        fun result after => returns_bind fun _ _ => ?_
      · refine PoolManager.asks_shutdown.bind fun _ => ?_
        cases result with
        | error failure => exact trivial
        | ok routines =>
          exact And.intro trivial fun elapsed =>
            ((tells_announce { routines, elapsed }).mono Request.Tells.quiet).bind fun _ => trivial
      · cases result with
        | error failure => exact returns_pure rfl
        | ok routines => exact returns_bind fun _ _ => returns_bind fun _ _ => returns_pure rfl

end Seeder
end

/-! ## What is kept -/

namespace Seeder

/-- What a run asks, in order, and how it is answered. -/
def history (seeder : Seeder) (config : Config) (world : World) : List Request.Done :=
  (seeder.run config).events World.perform world

/-- The server after a run, once all pools are closed that the run has left to be closed later, and
some connections more. -/
def aftermath (seeder : Seeder) (config : Config) (world : World) (closed : List ConnectionId) :
    Server :=
  ((world.run (seeder.run config)).2.closeAll.disconnect closed).server

/-- The rows of a run are kept as a whole or not at all. -/
structure AllOrNothing (seeder : Seeder) (config : Config) (world : World)
    (closed : List ConnectionId) : Prop where
  /-- The rows are those from before, or those and all rows of all routines; and then all routines
  were called and have succeeded, and the commit was carried out. -/
  whole : (seeder.aftermath config world closed).committed = world.server.committed ∨
    ∃ connection errands counts reply,
      Attempt seeder config (seeder.history config world) connection errands counts reply ∧
        AllDone (exchanges errands) ∧
        (∃ recent, (seeder.aftermath config world closed).record = recent ++ world.server.record ∧
          ⟨connection, .commit, false⟩ ∈ recent) ∧
        (seeder.aftermath config world closed).committed =
          world.server.committed ++ rowsOf (exchanges errands)
  /-- Without a commit the rows are those from before. -/
  silent : Uncommitted (seeder.history config world) →
    (seeder.aftermath config world closed).committed = world.server.committed
  /-- A run that fails, but not in its commit, has sent none. -/
  failed : ∀ failure, (world.run (seeder.run config)).1 = .done (.error failure) →
    (∀ fault, failure ≠ .routineFailed commitStep (.database fault)) →
      Uncommitted (seeder.history config world)

theorem not_uncommitted_of_attempt {history : List Request.Done} {connection : ConnectionId}
    {errands : List Errand.Done} {counts : Counts} {reply : Except Fault Nat}
    (attempt : Attempt seeder config history connection errands counts reply) :
    ¬ Uncommitted history := by
  obtain ⟨prior, begun, later, asked⟩ := attempt.asked
  intro silent
  refine silent ⟨.send connection .commit, reply⟩ ?_ connection rfl
  rw [asked]
  exact List.mem_append_right _ List.mem_cons_self

/-- However a run ends, if its routines leave the transaction to it. -/
theorem run_all_or_nothing (seeder : Seeder) (plain : ∀ routine ∈ seeder.routines, routine.Plain)
    (config : Config) (world : World) (closed : List ConnectionId) :
    seeder.AllOrNothing config world closed := by
  have late : Quiet (world.run (seeder.run config)).2.server
      (seeder.aftermath config world closed) :=
    World.quiet_disconnect (World.quiet_closeAll _) closed
  have fate : Fate seeder config (Except.map Report.routines) world.server
      (world.run (seeder.run config)).1 (seeder.history config world ++ [])
      (seeder.aftermath config world closed) :=
    Fate.after (meets_run config plain world) nofun late fun value same => ⟨value, same, rfl⟩
  rw [List.append_nil] at fate
  cases fate with
  | unsent silent failed quiet =>
    exact ⟨.inl quiet.committed, fun _ => quiet.committed, fun _ _ _ => silent⟩
  | @sent connection errands counts reply attempt told settled =>
    refine ⟨?_, fun silent => absurd silent (not_uncommitted_of_attempt attempt),
      fun failure failed other => ?_⟩
    · cases settled with
      | discarded same excused => exact .inl same
      | kept all grown processed =>
        exact .inr ⟨connection, errands, counts, reply, attempt, all, processed, grown⟩
    · have told := told _ failed
      cases reply with
      | error fault => cases told; exact absurd rfl (other fault)
      | ok affected => cases told

/-- Some supplies for the routine for users, with passwords stored as they are. -/
def someSupplies : UserSupplies where
  hasher := fun _ password => .ok password
  ids := { clock := fun calls => calls, random := fun calls => calls }
  timestamp := 0
  chance := .ofSeed 0

theorem run_all_or_nothing_users :
    (∀ routine ∈ [UserTable.routine someSupplies], routine.Plain) ∧
      AllOrNothing ⟨[UserTable.routine someSupplies]⟩ { postgres := "pg://h/d" } .obliging
        [0, 1] := by
  have plain : ∀ routine ∈ [UserTable.routine someSupplies], routine.Plain :=
    List.forall_mem_singleton.mpr (UserTable.routine_plain someSupplies)
  exact ⟨plain, run_all_or_nothing _ plain _ _ _⟩

end Seeder
end Seedbed

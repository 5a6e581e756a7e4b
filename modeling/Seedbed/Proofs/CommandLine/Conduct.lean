import Mathlib.Control.Monad.Basic
import Seedbed.CommandLine.Invocation
import Seedbed.Proofs.CommandLine.Values
import Seedbed.Proofs.Program.History
import Seedbed.Proofs.Seeder.AllOrNothing

/-!
# What the program of the command line does

An invocation is a single run between lines that it writes to the log (`invoke_eq`): the run is done
with the settings that were loaded, but with as many users as the command line says, and the status
is zero exactly if it succeeds. If the arguments or the settings are refused, nothing is asked of the
server (`conduct_invoke`).
-/

namespace Seedbed

/-! ## Telling -/

/-- The world after some lines were written to its log, as far as they are wanted. -/
def World.told (world : World) (lines : List Log.Line) : World :=
  lines.foldl (fun world line =>
    if world.listens line.level line.source then { world with log := line :: world.log }
    else world) world

theorem World.server_told (world : World) (lines : List Log.Line) :
    (world.told lines).server = world.server := by
  induction lines generalizing world with
  | nil => rfl
  | cons line lines ih =>
    refine (ih _).trans ?_
    show (if world.listens line.level line.source then _ else world).server = world.server
    split <;> rfl

namespace CommandLine

/-- Writes lines to the log. -/
def tellAll : (lines : List Log.Line) → PoolProgram Unit
  | [] => return
  | line :: lines => do
    Program.request (Request.say line)
    tellAll lines

theorem run_tellAll (lines : List Log.Line) (next : Unit → PoolProgram α) (world : World) :
    world.run (tellAll lines >>= next) = (world.told lines).run (next ()) := by
  induction lines generalizing world with
  | nil => rfl
  | cons line lines ih => exact ih _

theorem asked_tellAll (lines : List Log.Line) (next : Unit → PoolProgram α) (world : World) :
    (tellAll lines >>= next).asked World.perform world =
      lines.map .say ++ (next ()).asked World.perform (world.told lines) := by
  induction lines generalizing world with
  | nil => rfl
  | cons line lines ih => exact congrArg (Request.say line :: ·) (ih _)

theorem tellAll_append (earlier later : List Log.Line) :
    tellAll (earlier ++ later) = (tellAll earlier >>= fun _ => tellAll later) := by
  induction earlier with
  | nil => rfl
  | cons line lines ih =>
    rw [List.cons_append, tellAll, ih, tellAll]
    rw [bind_assoc]

theorem tellAll_forM (lines : List Log.Line) :
    (lines.forM fun line => Program.request (Request.say line)) = tellAll lines := by
  induction lines with
  | nil => rfl
  | cons line lines ih =>
    exact congrArg (fun rest => Program.request (Request.say line) >>= fun _ => rest) ih

/-! ## The lines of an invocation -/

/-- A line of the program itself. -/
def lineOf (level : Log.Level) (text : String) : Log.Line := { level, source := .commandLine, text }

/-- The lines up to the point where the settings are loaded or refused. -/
def openingLines (around : Surroundings) (arguments : Arguments) : List Log.Line :=
  lineOf .info "App data seeder" ::
    Config.loadLog around arguments.environment arguments.directory

/-- The line about settings that were loaded. -/
def loadedLine (arguments : Arguments) (config : Config) : Log.Line :=
  lineOf .info ("Loaded config for environment: " ++ config.label ++ " (" ++
    arguments.environment.name ++ ")")

/-- The lines about how a run has ended. -/
def closingLines : Except Failure Report → List Log.Line
  | .error failure => [lineOf .error ("Seeding failed: " ++ failure.message)]
  | .ok report =>
    lineOf .info "Seed completed!" :: (report.routines.map fun (routine, rows) =>
      lineOf .info ("  " ++ routine ++ ": " ++ toString rows)) ++
        [lineOf .info ("  Elapsed: " ++ toString report.elapsed ++ " ms")]

/-- How the program ends after a run. -/
def endingOf : Except Failure Report → Ending
  | .error failure => Ending.of (.error (.run failure))
  | .ok _ => Ending.of (.ok ())

theorem tellReport_eq (report : Report) :
    tellReport report = tellAll (closingLines (.ok report)) := by
  have rows : (report.routines.forM fun (routine, rows) =>
      say .info ("  " ++ routine ++ ": " ++ toString rows)) =
        tellAll (report.routines.map fun (routine, rows) =>
          lineOf .info ("  " ++ routine ++ ": " ++ toString rows)) := by
    induction report.routines with
    | nil => rfl
    | cons row routines ih =>
      exact congrArg (fun rest => Program.request (Request.say (lineOf .info _)) >>= fun _ => rest) ih
  rw [closingLines, List.cons_append, tellAll, tellAll_append, ← rows]
  rfl

variable {around : Surroundings} {supplies : UserSupplies} {texts : List SystemText}
  {arguments : Arguments} {config : Config} {fault : ConfigFault}

/-- If the settings are refused, some lines are written and that is all. -/
theorem invoke_unloaded (read : Arguments.read around.held texts = .ok arguments)
    (refused : arguments.settings around = .error fault) :
    invoke around supplies texts = (tellAll (openingLines around arguments) >>= fun _ =>
      pure (Ending.of (.error (.config fault)))) := by
  simp only [invoke, read, carryOut, refused, tellAll_forM, bind_assoc, pure_bind]
  rfl

/-- If the settings are loaded, a single run is done with them. -/
theorem invoke_eq (read : Arguments.read around.held texts = .ok arguments)
    (loaded : arguments.settings around = .ok config) :
    invoke around supplies texts =
      (tellAll (openingLines around arguments ++ [loadedLine arguments config]) >>= fun _ =>
        Seeder.run ⟨[UserTable.routine supplies]⟩ config >>= fun result =>
          tellAll (closingLines result) >>= fun _ => pure (endingOf result)) := by
  simp only [invoke, read, carryOut, loaded, tellAll_forM, tellReport_eq, tellAll_append,
    openingLines, tellAll, bind_assoc, pure_bind]
  refine bind_congr fun _ => bind_congr fun _ => bind_congr fun _ => bind_congr fun result => ?_
  cases result with
  | error failure => rfl
  | ok report => rw [bind_assoc, pure_bind]; rfl

/-! ## A single run -/

/-- The status with which a program ends. -/
def status (whole : PoolProgram Ending) (world : World) : Nat :=
  (Ending.ofOutcome (world.run whole).1).status

/-- Whether a program is a run between some lines. -/
structure Between (opening closing : List Log.Line) (run : PoolProgram (Except Failure Report))
    (whole : PoolProgram Ending) (world : World) : Prop where
  /-- What the run asks is asked once, and apart from it there are only lines. -/
  asked : whole.asked World.perform world = opening.map .say ++
    run.asked World.perform (world.told opening) ++ closing.map .say
  /-- The world is left as the run leaves it, but for the lines after it. -/
  after : (world.run whole).2 = ((world.told opening).run run).2.told closing
  /-- The status is zero exactly if the run succeeds. -/
  succeeds : status whole world = 0 ↔
    ∃ report, ((world.told opening).run run).1 = .done (.ok report)

/-- How the program goes on after a run. -/
def close (result : Except Failure Report) : PoolProgram Ending :=
  tellAll (closingLines result) >>= fun _ => pure (endingOf result)

/-- The lines after a run; one that has no result is not followed by any. -/
def linesAfter : Program.Outcome (Except Failure Report) → List Log.Line
  | .done result => closingLines result
  | _ => []

/-- How the program ends that has done a run. -/
def endAfter : Program.Outcome (Except Failure Report) → Program.Outcome Ending
  | .done result => .done (endingOf result)
  | .halted => .halted
  | .blocked => .blocked

theorem run_close (run : PoolProgram (Except Failure Report)) (world : World) :
    world.run (run >>= close) =
      (endAfter (world.run run).1, (world.run run).2.told (linesAfter (world.run run).1)) := by
  unfold World.run
  refine (Program.run_bind World.perform run close world).trans ?_
  rcases run.run World.perform world with ⟨result | _ | _, after⟩
  · exact run_tellAll (closingLines result) (fun _ => pure (endingOf result)) after
  · rfl
  · rfl

theorem asked_close (run : PoolProgram (Except Failure Report)) (world : World) :
    (run >>= close).asked World.perform world =
      run.asked World.perform world ++ (linesAfter (world.run run).1).map .say := by
  unfold World.run
  refine (Program.asked_bind World.perform run close world).trans (congrArg _ ?_)
  rcases run.run World.perform world with ⟨result | _ | _, after⟩
  · exact (asked_tellAll _ _ after).trans (List.append_nil _)
  · rfl
  · rfl

theorem status_endAfter_eq_zero_iff (outcome : Program.Outcome (Except Failure Report)) :
    (Ending.ofOutcome (endAfter outcome)).status = 0 ↔ ∃ report, outcome = .done (.ok report) := by
  rcases outcome with (failure | report) | _ | _
  · simp [endAfter, endingOf, Ending.ofOutcome, Ending.of]
  · simp [endAfter, endingOf, Ending.ofOutcome, Ending.of]
  · simp [endAfter, Ending.ofOutcome]
  · simp [endAfter, Ending.ofOutcome]

/-- However a run ends, only lines come after it. -/
theorem between_close (run : PoolProgram (Except Failure Report)) (world : World) :
    Between [] (linesAfter (world.run run).1) run (run >>= close) world where
  asked := asked_close run world
  after := congrArg Prod.snd (run_close run world)
  succeeds := by
    rw [status, run_close]
    exact status_endAfter_eq_zero_iff _

theorem between_of_settings (read : Arguments.read around.held texts = .ok arguments)
    (loaded : arguments.settings around = .ok config) (world : World) :
    ∃ opening closing, Between opening closing (Seeder.run ⟨[UserTable.routine supplies]⟩ config)
      (invoke around supplies texts) world := by
  let opening := openingLines around arguments ++ [loadedLine arguments config]
  let run := Seeder.run ⟨[UserTable.routine supplies]⟩ config
  obtain ⟨asked, after, succeeds⟩ := between_close run (world.told opening)
  refine ⟨opening, linesAfter ((world.told opening).run run).1, ⟨?_, ?_, ?_⟩⟩
  · rw [invoke_eq read loaded, asked_tellAll, List.append_assoc]
    exact congrArg _ asked
  · rw [invoke_eq read loaded, run_tellAll]
    exact after
  · rw [status, invoke_eq read loaded, run_tellAll]
    exact succeeds

/-! ## From the arguments on -/

/-- Whether arguments are what some options and the variables say: the value that an option is given
with counts, else what its variable holds, text or not, and else the default. -/
structure Chosen (around : Surroundings) (given : List (Opt × SystemText)) (arguments : Arguments) :
    Prop where
  environment : (arguments.environment.name : SystemText) =
    ((given.lookup .environment).or (around.held "ENV")).getD "local"
  directory : arguments.directory =
    ((given.lookup .directory).or (around.held "SEED_CONFIG_DIR")).getD "."
  /-- The current directory has a name. -/
  named : arguments.directory ≠ ""
  users : Option.Rel Counts (given.lookup .users) arguments.users?

theorem chosen_iff {given : List (Opt × SystemText)} :
    Chosen around given arguments ↔
      ∀ option : Opt, option.Shows (valueOf around.held given option) arguments := by
  have users : valueOf around.held given .users = given.lookup .users := by
    rw [valueOf, Opt.variableName?, Option.bind_none, Option.or_none]
  constructor
  · rintro ⟨environment, directory, named, counts⟩ option
    cases option with
    | environment => exact environment
    | directory =>
      refine ⟨directory, fun empty => named ?_⟩
      have value : (given.lookup .directory).or (around.held "SEED_CONFIG_DIR") = some "" := empty
      rw [directory, value]
      rfl
    | users => exact users ▸ counts
  · intro shows
    obtain ⟨directory, some⟩ := shows .directory
    refine ⟨shows .environment, directory, fun empty => ?_, users ▸ shows .users⟩
    rw [directory] at empty
    cases value : valueOf around.held given .directory with
    | none =>
      rw [value] at empty
      exact absurd empty (by decide)
    | some text =>
      rw [value] at some empty
      exact some (congrArg Option.some empty)

theorem read_eq_ok_iff_chosen : Arguments.read around.held texts = .ok arguments ↔
    ∃ given, Spells texts given ∧ (given.map Prod.fst).Nodup ∧ Chosen around given arguments := by
  simp only [read_eq_ok_iff, chosen_iff]

/-- Whether an invocation fails without a run. -/
structure Idle (whole : PoolProgram Ending) (world : World) : Prop where
  status : status whole world ≠ 0
  /-- Nothing is asked but to write lines. -/
  asked : ∀ request ∈ whole.asked World.perform world, ∃ line, request = .say line
  server : (world.run whole).2.server = world.server

theorem idle_of_refused {refusal : Refusal}
    (read : Arguments.read around.held texts = .error (.refused refusal)) (world : World) :
    Idle (invoke around supplies texts) world := by
  have same : invoke around supplies texts = pure (Stop.ending around.held (.refused refusal)) := by
    rw [invoke, read]
  rw [same]
  exact ⟨nofun, nofun, rfl⟩

theorem idle_of_unloaded (read : Arguments.read around.held texts = .ok arguments)
    (refused : arguments.settings around = .error fault) (world : World) :
    Idle (invoke around supplies texts) world := by
  rw [invoke_unloaded read refused]
  have ran := run_tellAll (openingLines around arguments)
    (fun _ => pure (Ending.of (.error (.config fault)))) world
  refine ⟨?_, ?_, ?_⟩
  · rw [status, ran]
    exact nofun
  · rw [asked_tellAll]
    intro request inside
    rcases List.mem_append.mp inside with told | ended
    · obtain ⟨line, -, rfl⟩ := List.mem_map.mp told
      exact ⟨line, rfl⟩
    · exact absurd ended List.not_mem_nil
  · rw [ran]
    exact World.server_told world _

theorem settings_of_load (loaded : Config.load around arguments.environment arguments.directory =
    .ok config) :
    arguments.settings around = .ok { config with
      seed := { config.seed with users := arguments.users?.getD config.seed.users } } := by
  rw [Arguments.settings, loaded]
  refine congrArg Except.ok ?_
  unfold Arguments.override
  cases arguments.users? <;> rfl

/-- What the program of the command line does. -/
structure Conduct (around : Surroundings) (supplies : UserSupplies) (texts : List SystemText)
    (world : World) : Prop where
  /-- A command line that is refused starts no run, -/
  refused : ∀ {refusal}, Arguments.read around.held texts = .error (.refused refusal) →
    Idle (invoke around supplies texts) world
  /-- and a call for help asks for nothing at all. -/
  helped : Arguments.read around.held texts = .error .help →
    status (invoke around supplies texts) world = 0 ∧
      (invoke around supplies texts).asked World.perform world = []
  /-- Exactly those are accepted that give options with values that they can have, each option once at
  most; together with the variables these decide about the arguments. -/
  accepted : ∀ arguments, Arguments.read around.held texts = .ok arguments ↔
    ∃ given, Spells texts given ∧ (given.map Prod.fst).Nodup ∧ Chosen around given arguments
  /-- If the settings of these arguments cannot be loaded, there is no run. -/
  unloaded : ∀ {arguments fault}, Arguments.read around.held texts = .ok arguments →
    Config.load around arguments.environment arguments.directory = .error fault →
      Idle (invoke around supplies texts) world
  /-- If they are loaded, there is a single run with them, but for the users that the arguments want.
  Without that there are as many as the file says, or a hundred. -/
  loaded : ∀ {arguments config}, Arguments.read around.held texts = .ok arguments →
    Config.load around arguments.environment arguments.directory = .ok config →
      (∃ text, Config.fileText around.look (arguments.environment.path arguments.directory) =
        .ok text ∧ Config.UsersSaid text config.seed.users) ∧
      ∃ opening closing, Between opening closing
        (Seeder.run ⟨[UserTable.routine supplies]⟩
          { config with
            seed := { config.seed with users := arguments.users?.getD config.seed.users } })
        (invoke around supplies texts) world

/-- Whatever the command line, the variables, the files and the server are. -/
theorem conduct_invoke (around : Surroundings) (supplies : UserSupplies) (texts : List SystemText)
    (world : World) : Conduct around supplies texts world where
  refused read := idle_of_refused read world
  helped read := by
    have same : invoke around supplies texts = pure (Stop.ending around.held .help) := by
      rw [invoke, read]
    rw [same]
    exact ⟨rfl, rfl⟩
  accepted _ := read_eq_ok_iff_chosen
  unloaded read refused := idle_of_unloaded read (congrArg (Except.map _) refused) world
  loaded read loaded :=
    ⟨Config.usersSaid_of_load loaded, between_of_settings read (settings_of_load loaded) world⟩

/-! ### One of them -/

/-- A directory with a name that is no text. -/
def oddDirectory : SystemText := ⟨[99, 255]⟩

/-- Settings in that directory, with a variable that leads there and another that leads astray. -/
def staged : Surroundings where
  look path :=
    if path = oddDirectory ++ "/chaty.dev.yaml" then
      some (.file "database:\n  postgres: pg://h/d\nseed:\n  users: 3\n".toUTF8)
    else none
  exported := [("ENV", "local"), ("SEED_CONFIG_DIR", oddDirectory)]

def stagedTexts : List SystemText := ["--env", "dev", "--users=+0"]

/-- A directory need not be called by a text, but an environment must be. -/
theorem conduct_invoke_staged :
    Arguments.read staged.held stagedTexts =
      .ok { environment := .dev, directory := oddDirectory, users? := some 0 } ∧
    Config.load staged .dev oddDirectory = .ok { postgres := "pg://h/d", seed := { users := 3 } } ∧
    (∃ opening closing, Between opening closing
      (Seeder.run ⟨[UserTable.routine Seeder.someSupplies]⟩
        { postgres := "pg://h/d", seed := { users := 0 } })
      (invoke staged Seeder.someSupplies stagedTexts) .obliging) ∧
    status (invoke staged Seeder.someSupplies stagedTexts) .obliging = 0 ∧
    Idle (invoke { exported := [("ENV", oddDirectory)] } Seeder.someSupplies []) .obliging := by
  have read : Arguments.read staged.held stagedTexts =
      .ok { environment := .dev, directory := oddDirectory, users? := some 0 } := rfl
  have loaded : Config.load staged .dev oddDirectory =
      .ok { postgres := "pg://h/d", seed := { users := 3 } } := by decide +kernel
  have conduct := conduct_invoke staged Seeder.someSupplies stagedTexts .obliging
  obtain ⟨-, opening, closing, between⟩ := conduct.loaded read loaded
  refine ⟨read, loaded, ⟨opening, closing, between⟩, by decide +kernel, ?_⟩
  have misread : Arguments.read ({ exported := [("ENV", oddDirectory)] } : Surroundings).held [] =
      .error (.refused (.badValue .environment oddDirectory.shown)) := rfl
  exact (conduct_invoke _ Seeder.someSupplies [] .obliging).refused misread

end CommandLine
end Seedbed

import Seedbed.Proofs.Config.Entries
import Seedbed.Proofs.Text.System

/-!
# What comes of loading settings

Every outcome of `load` has its own case of `Loads`, which says when it comes about in terms of the
file, the variable and the settings alone (`load_eq_iff`). A variable that is set takes the place of
the connection string in the file after the file is read and before the settings are checked, and
nothing but the variable and the environment's own file counts (`load_outcome`).
-/

namespace Seedbed

namespace Surroundings

variable {around : Surroundings} {name value : String}

/-- Whether an environment variable is set to a text. -/
def Sets (around : Surroundings) (name value : String) : Prop :=
  around.held name = some value

/-- The surroundings with something else at a path, or nothing at all. -/
def withEntry (around : Surroundings) (path : SystemText) (found? : Option FileEntry) :
    Surroundings :=
  { around with look := fun other => if other = path then found? else around.look other }

theorem text?_eq_some_iff : around.text? name = some value ↔ around.Sets name value := by
  unfold text? Sets
  cases around.held name <;> simp [SystemText.text?_eq_some_iff]

theorem text?_eq_none_iff : around.text? name = none ↔ ∀ value, ¬ around.Sets name value := by
  simp only [← text?_eq_some_iff, Option.eq_none_iff_forall_ne_some, ne_eq]

end Surroundings

namespace Environment

theorem path_injective {environment other : Environment} {directory : SystemText}
    (same : environment.path directory = other.path directory) : environment = other := by
  have files : environment.fileName = other.fileName := by
    refine SystemText.ofText_injective ?_
    unfold path joinPath at same
    split at same
    · exact same
    · split at same
      · exact SystemText.append_right_inj.mp same
      · exact SystemText.append_right_inj.mp same
  cases environment <;> cases other <;> first | rfl | exact absurd files (by decide)

end Environment

namespace Config

variable {around : Surroundings} {environment : Environment} {directory path : SystemText}
  {text postgres : String} {config : Config} {result : Except ConfigFault Config}

/-- The connection string that is used: the one that the variable is set to, or that of the file. -/
inductive Connects (around : Surroundings) (config : Config) : String → Prop where
  | override (url : String) (set : around.Sets "DATABASE_URL" url) : Connects around config url
  | own (unset : ∀ url, ¬ around.Sets "DATABASE_URL" url) : Connects around config config.postgres

theorem connects_iff : Connects around config postgres ↔
    (config.override (around.text? databaseVariable)).postgres = postgres := by
  constructor
  · rintro (⟨url, set⟩ | unset)
    · rw [databaseVariable, Surroundings.text?_eq_some_iff.mpr set]
      rfl
    · rw [databaseVariable, Surroundings.text?_eq_none_iff.mpr unset]
      rfl
  · rintro rfl
    cases found : around.text? databaseVariable with
    | none => exact .own (Surroundings.text?_eq_none_iff.mp found)
    | some url => exact .override url (Surroundings.text?_eq_some_iff.mp found)

theorem override_eq (connects : Connects around config postgres) :
    config.override (around.text? databaseVariable) = { config with postgres } := by
  rw [← connects_iff.mp connects]
  cases around.text? databaseVariable <;> rfl

/-- Whether the text of a file gives settings or a fault. -/
def FileGives (around : Surroundings) (path : SystemText) (read : Except Yaml.DecodeFault Config) :
    Prop :=
  ∃ text : String, around.look path = some (.file text.toUTF8) ∧ ofText text = read

/-- Whether loading the settings at a path comes to a result. -/
inductive Loads (around : Surroundings) (path : SystemText) : Except ConfigFault Config → Prop where
  | missing (nothing : around.look path = none) : Loads around path (.error (.notFound path))
  | directory (found : around.look path = some .directory) :
    Loads around path (.error (.unreadable "Is a directory (os error 21)"))
  | garbled (bytes : ByteArray) (found : around.look path = some (.file bytes))
    (noText : ∀ text : String, bytes ≠ text.toUTF8) :
    Loads around path (.error (.unreadable "stream did not contain valid UTF-8"))
  | refused (fault : Yaml.DecodeFault) (read : FileGives around path (.error fault)) :
    Loads around path (.error (.document fault))
  | blank (config : Config) (postgres : String) (read : FileGives around path (.ok config))
    (connects : Connects around config postgres)
    (blank : ∀ c ∈ postgres.toList, Unicode.isBlank c) :
    Loads around path (.error (.invalid "database.postgres must not be empty"))
  | noAttempts (config : Config) (postgres : String) (read : FileGives around path (.ok config))
    (connects : Connects around config postgres)
    (some : ∃ c ∈ postgres.toList, Unicode.isBlank c = false)
    (attempts : config.seed.maxUniqueAttempts = 0) :
    Loads around path (.error (.invalid "seed.max_unique_attempts must be at least 1"))
  | noPassword (config : Config) (postgres : String) (read : FileGives around path (.ok config))
    (connects : Connects around config postgres)
    (some : ∃ c ∈ postgres.toList, Unicode.isBlank c = false)
    (attempts : 1 ≤ config.seed.maxUniqueAttempts) (password : config.seed.password = "") :
    Loads around path (.error (.invalid "seed.password must not be empty"))
  | ready (config : Config) (postgres : String) (read : FileGives around path (.ok config))
    (connects : Connects around config postgres)
    (some : ∃ c ∈ postgres.toList, Unicode.isBlank c = false)
    (attempts : 1 ≤ config.seed.maxUniqueAttempts) (password : config.seed.password ≠ "") :
    Loads around path (.ok { config with postgres })

theorem ofFile_of_gives {read : Except Yaml.DecodeFault Config}
    (gives : FileGives around path read) :
    ofFile around.look path = read.mapError .document := by
  obtain ⟨text, found, rfl⟩ := gives
  have decoded : String.fromUTF8? text.toByteArray = some text := fromUTF8?_eq_some_iff.mpr rfl
  simp [ofFile, fileText, found, decoded, bind, Except.bind]

section
variable {bytes : ByteArray}

theorem load_of_missing (nothing : around.look (environment.path directory) = none) :
    load around environment directory = .error (.notFound (environment.path directory)) := by
  simp [load, ofFile, fileText, nothing, bind, Except.bind]

theorem load_of_directory (found : around.look (environment.path directory) = some .directory) :
    load around environment directory = .error .isDirectory := by
  simp [load, ofFile, fileText, found, bind, Except.bind]

theorem load_of_garbled (found : around.look (environment.path directory) = some (.file bytes))
    (noText : ∀ text : String, bytes ≠ text.toUTF8) :
    load around environment directory = .error .noText := by
  have garbled : String.fromUTF8? bytes = none := by
    refine Option.eq_none_iff_forall_ne_some.mpr fun text same => ?_
    exact noText text (fromUTF8?_eq_some_iff.mp same)
  simp [load, ofFile, fileText, found, garbled, bind, Except.bind]

end

theorem load_of_refused {fault : Yaml.DecodeFault}
    (gives : FileGives around (environment.path directory) (.error fault)) :
    load around environment directory = .error (.document fault) := by
  rw [load, ofFile_of_gives gives]
  rfl

theorem load_of_gives (gives : FileGives around (environment.path directory) (.ok config))
    (connects : Connects around config postgres) :
    load around environment directory = { config with postgres }.admitted := by
  rw [load, ofFile_of_gives gives]
  show (config.override (around.text? databaseVariable)).admitted = _
  rw [override_eq connects]

theorem isBlankText_iff : Unicode.isBlankText text ↔ ∀ c ∈ text.toList, Unicode.isBlank c :=
  List.all_eq_true

theorem isBlankText_eq_false_iff :
    Unicode.isBlankText text = false ↔ ∃ c ∈ text.toList, Unicode.isBlank c = false := by
  simp [Unicode.isBlankText, List.all_eq_false]

theorem loads_admitted (gives : FileGives around path (.ok config))
    (connects : Connects around config postgres) :
    Loads around path { config with postgres }.admitted := by
  unfold admitted fault?
  cases isBlank : Unicode.isBlankText postgres with
  | true => exact .blank config postgres gives connects (isBlankText_iff.mp isBlank)
  | false =>
    have some := isBlankText_eq_false_iff.mp isBlank
    by_cases attempts : config.seed.maxUniqueAttempts = 0
    · simpa [isBlank, attempts] using .noAttempts config postgres gives connects some attempts
    have enough : 1 ≤ config.seed.maxUniqueAttempts := Nat.one_le_iff_ne_zero.mpr attempts
    by_cases password : config.seed.password = ""
    · simpa [isBlank, attempts, password] using
        .noPassword config postgres gives connects some enough password
    · simpa [isBlank, attempts, password] using
        .ready config postgres gives connects some enough password

theorem loads_load (around : Surroundings) (environment : Environment) (directory : SystemText) :
    Loads around (environment.path directory) (load around environment directory) := by
  cases found : around.look (environment.path directory) with
  | none =>
    rw [load_of_missing found]
    exact .missing found
  | some entry =>
    cases entry with
    | directory =>
      rw [load_of_directory found]
      exact .directory found
    | file bytes =>
      by_cases isText : ∃ text : String, bytes = text.toUTF8
      · obtain ⟨text, rfl⟩ := isText
        cases read : ofText text with
        | error fault =>
          have gives : FileGives around (environment.path directory) (.error fault) :=
            ⟨text, found, read⟩
          rw [load_of_refused gives]
          exact .refused fault gives
        | ok config =>
          have gives : FileGives around (environment.path directory) (.ok config) :=
            ⟨text, found, read⟩
          have connects := connects_iff.mpr (rfl :
            (config.override (around.text? databaseVariable)).postgres = _)
          rw [load_of_gives gives connects]
          exact loads_admitted gives connects
      · have noText := not_exists.mp isText
        rw [load_of_garbled found noText]
        exact .garbled bytes found noText

theorem load_eq_iff :
    load around environment directory = result ↔
      Loads around (environment.path directory) result := by
  constructor
  · rintro rfl
    exact loads_load around environment directory
  · intro loads
    cases loads with
    | missing nothing => exact load_of_missing nothing
    | directory found => exact load_of_directory found
    | garbled bytes found noText => exact load_of_garbled found noText
    | refused fault gives => exact load_of_refused gives
    | blank config postgres gives connects blank =>
      simp [load_of_gives gives connects, admitted, fault?, isBlankText_iff.mpr blank,
        Inadmissible.message]
    | noAttempts config postgres gives connects some attempts =>
      simp [load_of_gives gives connects, admitted, fault?, isBlankText_eq_false_iff.mpr some,
        attempts, Inadmissible.message]
    | noPassword config postgres gives connects some attempts password =>
      simp [load_of_gives gives connects, admitted, fault?, isBlankText_eq_false_iff.mpr some,
        Nat.one_le_iff_ne_zero.mp attempts, password, Inadmissible.message]
    | ready config postgres gives connects some attempts password =>
      simp [load_of_gives gives connects, admitted, fault?, isBlankText_eq_false_iff.mpr some,
        Nat.one_le_iff_ne_zero.mp attempts, password]

/-! ## What is logged -/

/-- Whether settings were read and the variable is set, so that it is told to be used. -/
def Announces (around : Surroundings) (path : SystemText) : Prop :=
  (∃ config, FileGives around path (.ok config)) ∧ ∃ url, around.Sets "DATABASE_URL" url

/-- The line that tells that the variable is used. -/
def announcement : Log.Line :=
  { source := .config, text := "Using DATABASE_URL from the environment" }

theorem gives_of_ofFile (read : ofFile around.look path = .ok config) :
    FileGives around path (.ok config) := by
  obtain ⟨text, file, read⟩ := bind_eq_ok_iff.mp read
  have read := mapError_eq_ok_iff.mp read
  unfold fileText at file
  split at file
  · cases file
  · cases file
  · rename_i bytes found
    cases decoded : String.fromUTF8? bytes with
    | none =>
      rw [decoded] at file
      cases file
    | some text' =>
      rw [decoded] at file
      cases file
      exact ⟨text, fromUTF8?_eq_some_iff.mp decoded ▸ found, read⟩

theorem loadLog_cases (around : Surroundings) (environment : Environment) (directory : SystemText) :
    Announces around (environment.path directory) ∧
        loadLog around environment directory = [announcement] ∨
      ¬ Announces around (environment.path directory) ∧
        loadLog around environment directory = [] := by
  unfold loadLog
  cases read : ofFile around.look (environment.path directory) with
  | error fault =>
    refine .inr ⟨?_, rfl⟩
    rintro ⟨⟨config, gives⟩, -⟩
    rw [ofFile_of_gives gives] at read
    cases read
  | ok config =>
    cases set : around.text? databaseVariable with
    | none =>
      refine .inr ⟨?_, rfl⟩
      rintro ⟨-, url, set'⟩
      exact Surroundings.text?_eq_none_iff.mp set url set'
    | some url =>
      exact .inl ⟨⟨⟨config, gives_of_ofFile read⟩, url, Surroundings.text?_eq_some_iff.mp set⟩, rfl⟩

/-! ## What does not count -/

theorem ofFile_withEntry {other : Environment} (differs : other ≠ environment)
    (found? : Option FileEntry) :
    ofFile (around.withEntry (other.path directory) found?).look (environment.path directory) =
      ofFile around.look (environment.path directory) := by
  have paths : environment.path directory ≠ other.path directory := fun same =>
    differs (Environment.path_injective same).symm
  simp [ofFile, fileText, Surroundings.withEntry, paths]

/-- Loading settings comes to a result just if the result's own case is given, and it is told just
then that the variable is used when it is set and the settings can be read. The files of other
environments do not count. -/
theorem load_outcome (around : Surroundings) (environment : Environment) (directory : SystemText) :
    (∀ result, load around environment directory = result ↔
      Loads around (environment.path directory) result) ∧
    (Announces around (environment.path directory) ∧
        loadLog around environment directory = [announcement] ∨
      ¬ Announces around (environment.path directory) ∧
        loadLog around environment directory = []) ∧
    ∀ other : Environment, other ≠ environment → ∀ found? : Option FileEntry,
      load (around.withEntry (other.path directory) found?) environment directory =
          load around environment directory ∧
        loadLog (around.withEntry (other.path directory) found?) environment directory =
          loadLog around environment directory := by
  refine ⟨fun result => load_eq_iff, loadLog_cases around environment directory, ?_⟩
  intro other differs found?
  have file := @ofFile_withEntry around _ directory _ differs found?
  have unchanged : (around.withEntry (other.path directory) found?).text? databaseVariable =
      around.text? databaseVariable := rfl
  unfold load loadLog
  rw [file, unchanged]
  exact ⟨rfl, rfl⟩

theorem ofText_of_toOption (read : (ofText text).toOption = some config) :
    ofText text = .ok config := by
  cases decoded : ofText text <;> simp_all [Except.toOption]

/-- A variable makes up for a blank connection string, whatever stands where another environment has
its file, and a blank variable undoes one that is not blank. -/
theorem load_outcome_override :
    let blank := "database:\n  postgres: ' '\n"
    let whole := "database:\n  postgres: x\n"
    let set : Surroundings :=
      { look := fun _ => some (.file blank.toUTF8), exported := [("DATABASE_URL", "x")] }
    let unset : Surroundings :=
      { look := fun _ => some (.file whole.toUTF8), exported := [("DATABASE_URL", " ")] }
    Environment.dev ≠ .local ∧
    load (set.withEntry (Environment.dev.path "conf") (some .directory)) .local "conf" =
      .ok { postgres := "x" } ∧
    load unset .local "conf" = .error (.invalid "database.postgres must not be empty") := by
  intro blank whole set unset
  have differs : Environment.dev ≠ .local := by decide
  refine ⟨differs, ?_, ?_⟩
  · rw [((load_outcome set .local "conf").2.2 .dev differs (some .directory)).1,
      (load_outcome set .local "conf").1]
    have read : ofText blank = .ok { postgres := " " } := ofText_of_toOption (by decide +kernel)
    exact .ready { postgres := " " } "x" ⟨blank, rfl, read⟩ (.override "x" rfl)
      ⟨'x', by decide, by decide⟩ (by decide) (by decide)
  · rw [(load_outcome unset .local "conf").1]
    have read : ofText whole = .ok { postgres := "x" } := ofText_of_toOption (by decide +kernel)
    exact .blank { postgres := "x" } " " ⟨whole, rfl, read⟩ (.override " " rfl)
      (isBlankText_iff.mp (by decide))

end Config
end Seedbed

import Seedbed.Config.Document
import Seedbed.Proofs.Yaml.Decoding

/-!
# Settings that are written and read

Settings are written as a block document with the sections `database`, `production` and `seed` in
any order, and inside `seed` its four settings in any order. Texts stand between double quotes,
their characters escaped in any style; numbers are decimal, and a seed that is left open is `null`.
Reading the document gives the settings back (`ofText_written`).
-/

namespace Seedbed.Config

open Yaml

/-! ## Writing -/

/-- All values of a type in some order, each of them once. -/
structure Arrangement (α : Type) where
  first : α
  others : List α
  distinct : (first :: others).Nodup
  complete : ∀ a, a ∈ first :: others

/-- What stands at the top of a document. -/
inductive Section where
  | database
  | production
  | seed
  deriving DecidableEq, Repr

/-- What stands inside `seed`. -/
inductive Setting where
  | users
  | password
  | maxUniqueAttempts
  | rngSeed
  deriving DecidableEq, Repr

/-- What the writer of a document is free to choose. -/
structure Manner where
  sections : Arrangement Section
  settings : Arrangement Setting
  /-- The style of every character's escape, by its number in the connection string. -/
  postgres : Nat → EscapeStyle
  /-- The same for the password. -/
  password : Nat → EscapeStyle

/-- A text whose characters are escaped in some style. -/
def glyphs (style : Nat → EscapeStyle) (text : String) : List Glyph :=
  text.toList.zipIdx.map fun (char, i) => { style i with char }

/-- A known word. -/
def wordOf (text : String) (nonempty : text.toList ≠ []) (plain : text.toList.all isWordChar) :
    Word where
  letters := text.toList
  nonempty
  plain := List.all_eq_true.mp plain

/-- A key of a known name. -/
def keyOf (name : String) (nonempty : name.toList ≠ []) (plain : name.toList.all isWordChar)
    (short : name.toList.length ≤ keySpan) : Key where
  toWord := wordOf name nonempty plain
  short

def Setting.key : Setting → Key
  | users => keyOf "users" (by decide) (by decide) (by decide)
  | password => keyOf "password" (by decide) (by decide) (by decide)
  | maxUniqueAttempts => keyOf "max_unique_attempts" (by decide) (by decide) (by decide)
  | rngSeed => keyOf "rng_seed" (by decide) (by decide) (by decide)

/-- How a setting is written. -/
def Setting.value (manner : Manner) (seed : SeedSettings) : Setting → Outline
  | users => .word (.ofNat seed.users)
  | password => .text (glyphs manner.password seed.password)
  | maxUniqueAttempts => .word (.ofNat seed.maxUniqueAttempts)
  | rngSeed => .word (seed.rngSeed?.elim (wordOf "null" (by decide) (by decide)) .ofNat)

def Section.key : Section → Key
  | database => keyOf "database" (by decide) (by decide) (by decide)
  | production => keyOf "production" (by decide) (by decide) (by decide)
  | seed => keyOf "seed" (by decide) (by decide) (by decide)

/-- The only key inside `database`. -/
def postgresKey : Key := keyOf "postgres" (by decide) (by decide) (by decide)

/-- How a section is written. -/
def Section.value (manner : Manner) (config : Config) : Section → Outline
  | database => .mapping postgresKey (.text (glyphs manner.postgres config.postgres)) []
  | production =>
    .word <| if config.production then wordOf "true" (by decide) (by decide)
      else wordOf "false" (by decide) (by decide)
  | seed =>
    let { first, others, .. } := manner.settings
    .mapping first.key (first.value manner config.seed)
      (others.map fun setting => (setting.key, setting.value manner config.seed))

/-- The document of settings. -/
def written (manner : Manner) (config : Config) : String :=
  String.ofList <| linesOf 0 <| (manner.sections.first :: manner.sections.others).map fun part =>
    (part.key, part.value manner config)

/-! ## Reading -/

variable {manner : Manner} {config : Config} {seed : SeedSettings} {document : Document}
  {path : Path} {name node : Node}

theorem map_char_glyphs (style : Nat → EscapeStyle) (text : String) :
    String.ofList ((glyphs style text).map Glyph.char) = text := by
  have chars : (glyphs style text).map Glyph.char = text.toList := by
    rw [glyphs, List.map_map]
    exact List.zipIdx_map_fst 0 text.toList
  rw [chars, String.ofList_toList]

theorem decodeText_glyphs {style : Nat → EscapeStyle} {text : String}
    (isNode : (Outline.text (glyphs style text)).IsNode node) :
    decodeText document path node = .ok text := by
  rw [decodeText_text isNode, map_char_glyphs]

/-- A field that has not been set is set to the value of its node. -/
theorem readEntry_decoded {δ α β : Type} {record : Record δ α} {key : Key} {title : String}
    {get : δ → Option β} {set : δ → β → δ} {decode : Decoder β} {draft : δ} {value : β}
    (isKey : key.IsNode name)
    (found : record.fields.find? (·.name == String.ofList key.letters) =
      some (field title get set decode))
    (unset : get draft = none) (decoded : ∀ path, decode document path node = .ok value) :
    record.readEntry document path draft (name, node) = .ok (set draft value) := by
  rw [readEntry_field isKey found (by simp [field, unset])]
  simp [field, decoded, Except.map]

/-! ### The settings of users -/

/-- Whether the numbers of settings fit into a word. -/
structure Fits (seed : SeedSettings) : Prop where
  users : seed.users < 2 ^ wordBits
  maxUniqueAttempts : seed.maxUniqueAttempts < 2 ^ wordBits
  rngSeed : ∀ number ∈ seed.rngSeed?, number < 2 ^ wordBits

/-- What has been read of the settings of users once some of them are done. -/
def seedDraft (seed : SeedSettings) (done : List Setting) : SeedDraft where
  users? := if .users ∈ done then some seed.users else none
  password? := if .password ∈ done then some seed.password else none
  maxUniqueAttempts? := if .maxUniqueAttempts ∈ done then some seed.maxUniqueAttempts else none
  rngSeed? := if .rngSeed ∈ done then some seed.rngSeed? else none

theorem decode_rngSeed (fits : Fits seed)
    (isNode : (Setting.value manner seed .rngSeed).IsNode node) :
    decodeOption (decodeNatural "u64") document path node = .ok seed.rngSeed? := by
  rw [decodeOption_word isNode]
  cases written : seed.rngSeed? with
  | none => rfl
  | some number =>
    rw [Setting.value, written] at isNode
    have something : isNull (Word.ofNat number).letters = false := not_isNull_ofNat number
    rw [Option.elim_some, something, if_neg Bool.false_ne_true,
      decodeNatural_ofNat isNode (fits.rngSeed number written)]
    rfl

/-- A setting is read whatever others have been read before. -/
theorem readEntry_setting (fits : Fits seed) (setting : Setting) (done : List Setting)
    (name node : Node) (fresh : setting ∉ done) (isKey : setting.key.IsNode name)
    (isNode : (setting.value manner seed).IsNode node) :
    seedRecord.readEntry document path (seedDraft seed done) (name, node) =
      .ok (seedDraft seed (setting :: done)) := by
  cases setting with
  | users =>
    refine (readEntry_decoded isKey rfl ?_ fun _ => decodeNatural_ofNat isNode fits.users).trans ?_
    · exact if_neg fresh
    · simp [seedDraft]
  | password =>
    refine (readEntry_decoded isKey rfl ?_ fun _ => decodeText_glyphs isNode).trans ?_
    · exact if_neg fresh
    · simp [seedDraft]
  | maxUniqueAttempts =>
    refine (readEntry_decoded isKey rfl ?_ fun _ =>
      decodeNatural_ofNat isNode fits.maxUniqueAttempts).trans ?_
    · exact if_neg fresh
    · simp [seedDraft]
  | rngSeed =>
    refine (readEntry_decoded isKey rfl ?_ fun _ => decode_rngSeed fits isNode).trans ?_
    · exact if_neg fresh
    · simp [seedDraft]

/-- The settings of users are read in whatever order they are written. -/
theorem decode_seed (fits : Fits config.seed)
    (isNode : (Section.value manner config .seed).IsNode node) :
    seedRecord.decode document path node = .ok config.seed := by
  refine decode_mapping (readEntry_setting fits) rfl manner.settings.distinct ?_ isNode
  intro done all
  -- the draft asks which settings are done, not when, and an arrangement leaves none out
  have done (setting : Setting) : setting ∈ done := all setting (manner.settings.complete setting)
  simp [seedRecord, SeedDraft.finish, seedDraft, done]

/-! ### The sections -/

/-- What has been read of the record of the connection string, whose only entry may be done. -/
def databaseDraft (config : Config) (done : List Unit) : DatabaseDraft where
  postgres? := if () ∈ done then some config.postgres else none

theorem readEntry_postgres (entry : Unit) (done : List Unit) (name node : Node)
    (fresh : entry ∉ done) (isKey : postgresKey.IsNode name)
    (isNode : (Outline.text (glyphs manner.postgres config.postgres)).IsNode node) :
    databaseRecord.readEntry document path (databaseDraft config done) (name, node) =
      .ok (databaseDraft config (entry :: done)) := by
  refine (readEntry_decoded isKey rfl ?_ fun _ => decodeText_glyphs isNode).trans ?_
  · exact if_neg fresh
  · simp [databaseDraft]

theorem decode_database (isNode : (Section.value manner config .database).IsNode node) :
    databaseRecord.decode document path node = .ok config.postgres := by
  refine decode_mapping readEntry_postgres rfl (by decide : [()].Nodup) ?_ isNode
  intro done all
  simp [databaseRecord, databaseDraft, all () List.mem_cons_self]

theorem decode_production (isNode : (Section.value manner config .production).IsNode node) :
    decodeBoolean document path node = .ok config.production :=
  decodeBoolean_word isNode (by cases config.production <;> rfl)

/-- What has been read of the settings once some sections are done. -/
def draftOf (config : Config) (done : List Section) : Draft where
  postgres? := if .database ∈ done then some config.postgres else none
  production? := if .production ∈ done then some config.production else none
  seed? := if .seed ∈ done then some config.seed else none

/-- A section is read whatever others have been read before. -/
theorem readEntry_section (fits : Fits config.seed) (part : Section) (done : List Section)
    (name node : Node) (fresh : part ∉ done) (isKey : part.key.IsNode name)
    (isNode : (part.value manner config).IsNode node) :
    record.readEntry document path (draftOf config done) (name, node) =
      .ok (draftOf config (part :: done)) := by
  cases part with
  | database =>
    refine (readEntry_decoded isKey rfl ?_ fun _ => decode_database isNode).trans ?_
    · exact if_neg fresh
    · simp [draftOf]
  | production =>
    refine (readEntry_decoded isKey rfl ?_ fun _ => decode_production isNode).trans ?_
    · exact if_neg fresh
    · simp [draftOf]
  | seed =>
    refine (readEntry_decoded isKey rfl ?_ fun _ => decode_seed fits isNode).trans ?_
    · exact if_neg fresh
    · simp [draftOf]

/-- Settings are read back from their document, in whatever order and style it is written. -/
theorem ofText_written (manner : Manner) (config : Config) (fits : Fits config.seed) :
    ofText (written manner config) = .ok config := by
  let value (part : Section) : Outline := part.value manner config
  obtain ⟨document, read, whole, alone, isNode⟩ := root_ofText manner.sections.first.key
    (value manner.sections.first) (manner.sections.others.map fun part => (part.key, value part))
  have decoded : record.decode document [] document.root = .ok config := by
    refine decode_mapping (readEntry_section fits) rfl manner.sections.distinct ?_ isNode
    intro done all
    have done (part : Section) : part ∈ done := all part (manner.sections.complete part)
    simp [record, draftOf, done]
  rw [ofText, written, String.toList_ofList]
  simp only [List.map_cons]
  rw [read]
  simp [Document.decode, decoded, whole, alone, bind, Except.bind, pure, Except.pure]

/-- A manner with everything in the opposite order, and eight capital digits in every escape. -/
def backwards : Manner where
  sections := ⟨.seed, [.production, .database], by decide, fun part => by cases part <;> decide⟩
  settings :=
    ⟨.rngSeed, [.maxUniqueAttempts, .password, .users], by decide, fun setting => by
      cases setting <;> decide⟩
  postgres _ := { wish := .eight, capital := true }
  password _ := { wish := .eight, capital := true }

theorem ofText_written_backwards :
    let seed : SeedSettings :=
      { users := 0, password := "\n \\ñ", maxUniqueAttempts := 18446744073709551615 }
    Fits seed ∧
      ofText (written backwards { postgres := "\"", production := true, seed }) =
        .ok { postgres := "\"", production := true, seed } := by
  intro seed
  have fits : Fits seed := ⟨by decide, by decide, nofun⟩
  exact ⟨fits, ofText_written backwards _ fits⟩

/-- How a setting is written among the others. -/
example :
    entryText 2 (Setting.key .password)
        ((Outline.text (glyphs backwards.password "a \"é")).after 2) =
      "  password: \"a \\\"\\U000000E9\"\n".toList := by
  decide

end Seedbed.Config

import Seedbed.Config.Loading

/-!
# Entries of settings

Which node of a document a setting is taken from. A field of a record is what the first entry with
its name holds, and it is left out if there is none (`HasField.of_decode`); so the number of users is
what the entry `users` inside `seed` says, and a hundred if there is no such entry
(`usersSaid_of_ofText`).
-/

namespace Seedbed

open Yaml

theorem bind_eq_ok_iff {result : Except ε α} {next : α → Except ε β} {value : β} :
    (result >>= next) = .ok value ↔ ∃ middle, result = .ok middle ∧ next middle = .ok value := by
  cases result <;> simp [bind, Except.bind]

theorem mapError_eq_ok_iff {result : Except ε α} {change : ε → ζ} {value : α} :
    result.mapError change = .ok value ↔ result = .ok value := by
  constructor
  · intro same
    cases result <;> cases same
    rfl
  · rintro rfl
    rfl

/-! ## Entries of records -/

namespace Yaml

/-- Whether a key has a name. -/
def Document.names (document : Document) (name : String) (key : Node) : Bool :=
  match document.follow key with
  | .scalar _ scalar => String.ofList scalar.text == name
  | _ => false

/-- The node of the first entry with a name; what is no mapping has no entries. -/
def Document.entry? (document : Document) (name : String) (node : Node) : Option Node :=
  match document.follow node with
  | .mapping _ entries => (entries.find? fun entry => document.names name entry.1).map (·.2)
  | _ => none

theorem names_of_readKey {document : Document} {path : Path} {key : Node} {text step : String}
    (read : Record.readKey document path key = .ok (text, step)) (name : String) :
    document.names name key = (text == name) := by
  unfold Record.readKey at read
  unfold Document.names
  cases followed : document.follow key with
  | scalar place scalar =>
    rw [followed] at read
    cases read
    rfl
  | _ =>
    rw [followed] at read
    cases read

end Yaml

namespace Config

variable {δ α β : Type}

/-- Whether a value is taken from a node, whichever keys lead to it. -/
def Taken (document : Document) (decode : Decoder β) (node : Node) (value : β) : Prop :=
  ∃ path, decode document path node = .ok value

theorem read_field_eq_ok_iff {name : String} {get : δ → Option β} {set : δ → β → δ}
    {decode : Decoder β} {draft after : δ} {document : Document} {path : Path} {node : Node} :
    (field name get set decode).read draft document path node = .ok after ↔
      ∃ value, decode document path node = .ok value ∧ set draft value = after := by
  simp only [field]
  cases decode document path node <;> simp [Except.map]

/-- Whether a record has a field with a name, which is set by nothing but its own entry. -/
structure HasField (record : Record δ α) (name : String) (get : δ → Option β) (set : δ → β → δ)
    (decode : Decoder β) : Prop where
  found : record.fields.find? (·.name == name) = some (field name get set decode)
  own : ∀ draft value, get (set draft value) = some value
  others : ∀ other ∈ record.fields, other.name ≠ name → ∀ {draft document path node after},
    other.read draft document path node = .ok after → get after = get draft
  blank : get record.blank = none

namespace HasField

variable {record : Record δ α} {name : String} {get : δ → Option β} {set : δ → β → δ}
  {decode : Decoder β} {document : Document} {path : Path} {draft after : δ}

/-- An entry with the name sets the field, and every other entry leaves it alone. -/
theorem readEntry (has : HasField record name get set decode) {entry : Node × Node}
    (read : record.readEntry document path draft entry = .ok after) :
    if document.names name entry.1 then
      get draft = none ∧ ∃ value, Taken document decode entry.2 value ∧ get after = some value
    else get after = get draft := by
  obtain ⟨⟨text, step⟩, key, rest⟩ := bind_eq_ok_iff.mp read
  -- The entry has the name exactly if the text of its key is the name of the field.
  rw [names_of_readKey key name]
  simp only at rest
  by_cases same : text = name
  · rw [same, has.found] at rest
    rw [if_pos (beq_iff_eq.mpr same)]
    simp only at rest
    split at rest
    · cases rest
    · rename_i fresh
      have unset : get draft = none := by simpa [field] using fresh
      obtain ⟨value, decoded, rfl⟩ := read_field_eq_ok_iff.mp rest
      exact ⟨unset, value, ⟨_, decoded⟩, has.own draft value⟩
  · rw [if_neg (fun equal => same (beq_iff_eq.mp equal))]
    cases found : record.fields.find? (·.name == text) with
    | none =>
      rw [found] at rest
      simp only at rest
      split at rest
      · cases rest
        rfl
      · cases rest
    | some other =>
      rw [found] at rest
      simp only at rest
      split at rest
      · cases rest
      · have named : other.name = text := by simpa using List.find?_some found
        exact has.others other (List.mem_of_find?_eq_some found) (named ▸ same) rest

theorem keeps (has : HasField record name get set decode) {entries : List (Node × Node)}
    {value : β} (set : get draft = some value)
    (read : entries.foldlM (record.readEntry document path) draft = .ok after) :
    get after = some value := by
  induction entries generalizing draft with
  | nil =>
    cases read
    exact set
  | cons entry entries ih =>
    obtain ⟨middle, first, rest⟩ := bind_eq_ok_iff.mp read
    have one := has.readEntry first
    split at one
    · exact absurd (set.symm.trans one.1) nofun
    · exact ih (one.trans set) rest

/-- The first entry with the name is the one that sets the field. -/
theorem readEntries (has : HasField record name get set decode) {entries : List (Node × Node)}
    (unset : get draft = none)
    (read : entries.foldlM (record.readEntry document path) draft = .ok after) :
    Option.Rel (Taken document decode)
      ((entries.find? fun entry => document.names name entry.1).map (·.2)) (get after) := by
  induction entries generalizing draft with
  | nil =>
    cases read
    rw [unset]
    exact .none
  | cons entry entries ih =>
    obtain ⟨middle, first, rest⟩ := bind_eq_ok_iff.mp read
    have one := has.readEntry first
    cases named : document.names name entry.1 with
    | true =>
      rw [named, if_pos rfl] at one
      obtain ⟨-, value, taken, set⟩ := one
      rw [List.find?_cons, named, has.keeps set rest]
      exact .some taken
    | false =>
      rw [named, if_neg Bool.false_ne_true] at one
      rw [List.find?_cons, named]
      exact ih (one.trans unset) rest

/-- A record that was taken from a node has the field from the entry with its name. -/
theorem of_decode (has : HasField record name get set decode) {node : Node} {result : α}
    (read : record.decode document path node = .ok result) :
    ∃ draft, record.finish draft = .ok result ∧
      Option.Rel (Taken document decode) (document.entry? name node) (get draft) := by
  have mapped {entries : List (Node × Node)} {place : Place}
      (read : (record.readEntries document path entries).mapError (DecodeFault.placed path place) =
        .ok result) :
      ∃ draft, record.finish draft = .ok result ∧ Option.Rel (Taken document decode)
        ((entries.find? fun entry => document.names name entry.1).map (·.2)) (get draft) := by
    obtain ⟨draft, entries, finished⟩ := bind_eq_ok_iff.mp (mapError_eq_ok_iff.mp read)
    refine ⟨draft, ?_, has.readEntries has.blank entries⟩
    cases finish : record.finish draft with
    | error field =>
      rw [finish] at finished
      cases finished
    | ok value =>
      rw [finish] at finished
      cases finished
      rfl
  -- Nodes that are no mapping are taken for one without entries, or refused.
  unfold Record.decode at read
  unfold Document.entry?
  generalize document.follow node = node at read
  cases node with
  | mapping place entries => exact mapped read
  | void place => exact mapped read
  | scalar place scalar =>
    simp only at read
    split at read
    · exact mapped read
    · cases read
  | _ => cases read

end HasField

/-! ## Fields of settings -/

theorem get_of_read {name : String} {get : δ → Option γ} {set : δ → γ → δ} {decode : Decoder γ}
    {draft after : δ} {document : Document} {path : Path} {node : Node} (other : δ → Option β)
    (read : (field name get set decode).read draft document path node = .ok after)
    (apart : ∀ draft value, other (set draft value) = other draft) : other after = other draft := by
  obtain ⟨value, -, rfl⟩ := read_field_eq_ok_iff.mp read
  exact apart draft value

theorem hasField_seed :
    HasField record "seed" Draft.seed? (fun draft value => { draft with seed? := value })
      seedRecord.decode where
  found := rfl
  own _ _ := rfl
  others := by
    simp only [record, List.forall_mem_cons]
    refine ⟨fun _ => ?_, fun _ => ?_, fun other => absurd rfl other, nofun⟩
    · exact fun read => get_of_read Draft.seed? read fun _ _ => rfl
    · exact fun read => get_of_read Draft.seed? read fun _ _ => rfl
  blank := rfl

theorem hasField_users :
    HasField seedRecord "users" SeedDraft.users? (fun draft value => { draft with users? := value })
      (decodeNatural "usize") where
  found := rfl
  own _ _ := rfl
  others := by
    simp only [seedRecord, List.forall_mem_cons]
    refine ⟨fun other => absurd rfl other, fun _ => ?_, fun _ => ?_, fun _ => ?_, nofun⟩
    · exact fun read => get_of_read SeedDraft.users? read fun _ _ => rfl
    · exact fun read => get_of_read SeedDraft.users? read fun _ _ => rfl
    · exact fun read => get_of_read SeedDraft.users? read fun _ _ => rfl
  blank := rfl

/-- The node that says how many users there are: the entry `users` inside `seed`. -/
def usersNode? (document : Document) : Option Node :=
  (document.entry? "seed" document.root).bind (document.entry? "users")

/-- Whether a text means a number of users: the one that it says, or a hundred if it says none. -/
def UsersSaid (text : String) (users : Nat) : Prop :=
  ∃ said?, Option.Rel (Taken (.ofText text.toList) (decodeNatural "usize"))
    (usersNode? (.ofText text.toList)) said? ∧ users = said?.getD 100

/-- Settings have as many users as their text says. -/
theorem usersSaid_of_ofText {text : String} {config : Config} (read : ofText text = .ok config) :
    UsersSaid text config.seed.users := by
  obtain ⟨decoded, root, whole⟩ := bind_eq_ok_iff.mp read
  have same : decoded = config := by
    split at whole
    · cases whole
    · split at whole
      · cases whole
      · exact Except.ok.inj whole
  rw [same] at root
  obtain ⟨draft, finished, seed⟩ := hasField_seed.of_decode root
  have taken : config.seed = draft.seed?.getD {} := by
    simp only [record] at finished
    split at finished
    · cases finished
    · cases finished
      rfl
  rw [UsersSaid, usersNode?, taken]
  generalize Document.ofText text.toList = document at seed
  generalize draft.seed? = seed?, document.entry? "seed" document.root = node? at seed
  cases seed with
  | none => exact ⟨none, .none, rfl⟩
  | some decoded =>
    obtain ⟨path, decoded⟩ := decoded
    obtain ⟨inner, finished, users⟩ := hasField_users.of_decode decoded
    cases finished
    exact ⟨inner.users?, users, rfl⟩

/-- Settings that were loaded have as many users as their file says. -/
theorem usersSaid_of_load {around : Surroundings} {environment : Environment} {directory : SystemText}
    {config : Config} (loaded : load around environment directory = .ok config) :
    ∃ text, fileText around.look (environment.path directory) = .ok text ∧
      UsersSaid text config.seed.users := by
  obtain ⟨filed, file, admitted⟩ := bind_eq_ok_iff.mp loaded
  obtain ⟨text, found, read⟩ := bind_eq_ok_iff.mp file
  have seed : config.seed = filed.seed := by
    unfold Config.admitted at admitted
    split at admitted
    · cases admitted
    · cases admitted
      cases around.text? databaseVariable <;> rfl
  exact ⟨text, found, seed ▸ usersSaid_of_ofText (mapError_eq_ok_iff.mp read)⟩

end Config
end Seedbed

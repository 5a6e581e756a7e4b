import Seedbed.Proofs.Config.Fields

/-!
# What settings a document means

A document means settings if it is one whole document whose root has orderly entries, and each
setting is what its entry says, or has its own default (`Means`). These are the settings that are
read from a text, and no others (`ofText_eq_ok_iff`).
-/

namespace Seedbed

open Yaml

namespace Yaml

/-! ## Values -/

/-- The truth value of a scalar. -/
def Leaf.boolean? : Leaf → Option Bool
  | .void => none
  | .scalar content => if content.converts .boolean then Yaml.boolean? content.text else none

/-- The natural number of a scalar. -/
def Leaf.natural? : Leaf → Option Nat
  | .void => none
  | .scalar content => if content.converts .integer then Yaml.natural? content.text else none

/-- A value that may be nothing. Only a plain scalar can say so, by its tag or by its text. -/
def Leaf.optional? {α : Type} (read : Leaf → Option α) : Leaf → Option (Option α)
  | .void => some none
  | .scalar content =>
    if content.style != .plain then (read (.scalar content)).map some
    else if content.standardTag? = some .null then
      if isNull content.text then some none else none
    else if content.tag?.isNone && (content.text.isEmpty || isNull content.text) then some none
    else (read (.scalar content)).map some

/-- Whether a node stands for a value. -/
def Document.Gives {α : Type} (document : Document) (read : Leaf → Option α) (node : Node)
    (value : α) : Prop :=
  (document.leaf? node).bind read = some value

variable {α : Type} {document : Document} {path : Path} {node : Node}

theorem decodeScalar_eq_ok_iff {wanted : String} {read? : Scalar → Option α}
    {read : Leaf → Option α} {value : α} (void : read .void = none)
    (scalar : ∀ content, read (.scalar content) = read? content) :
    decodeScalar wanted read? document path node = .ok value ↔ document.Gives read node value := by
  unfold decodeScalar Document.Gives Document.leaf?
  cases document.follow node with
  | scalar place content =>
    simp only [Option.bind_some, scalar]
    cases read? content <;> simp
  | void place => simp [void]
  | _ => simp

theorem decodeText_eq_ok_iff {value : String} :
    decodeText document path node = .ok value ↔ document.Gives Leaf.text? node value :=
  decodeScalar_eq_ok_iff rfl fun _ => rfl

theorem decodeBoolean_eq_ok_iff {value : Bool} :
    decodeBoolean document path node = .ok value ↔ document.Gives Leaf.boolean? node value :=
  decodeScalar_eq_ok_iff rfl fun _ => rfl

theorem decodeNatural_eq_ok_iff {wanted : String} {value : Nat} :
    decodeNatural wanted document path node = .ok value ↔
      document.Gives Leaf.natural? node value :=
  decodeScalar_eq_ok_iff rfl fun _ => rfl

theorem map_some_eq_ok_iff {ε : Type} {result : Except ε α} {value? : Option α} :
    result.map some = .ok value? ↔ ∃ value, result = .ok value ∧ some value = value? := by
  cases result <;> simp [Except.map]

theorem decodeOption_eq_ok_iff {decode : Decoder α} {read : Leaf → Option α} {value? : Option α}
    (targeted : Targeted document.items) (built : node.Built document.items)
    (means : ∀ node value, decode document path node = .ok value ↔ document.Gives read node value) :
    decodeOption decode document path node = .ok value? ↔
      document.Gives (Leaf.optional? read) node value? := by
  have direct := follow_ne_alias targeted built
  unfold decodeOption Document.Gives Document.leaf?
  generalize document.follow node = node at direct
  cases node with
  | scalar place content =>
    have scalar : (decode document path (.scalar place content)).map some = .ok value? ↔
        (read (.scalar content)).map some = some value? := by
      rw [map_some_eq_ok_iff, Option.map_eq_some_iff]
      exact exists_congr fun value => and_congr_left fun _ => means _ value
    simp only [Option.bind_some, Leaf.optional?]
    split
    · exact scalar
    · split
      · split <;> simp
      · split
        · simp
        · exact scalar
  | void place => simp [Leaf.optional?]
  -- the decoder would follow another alias here
  | «alias» place target => exact absurd rfl (direct place target)
  | _ =>
    simp only [Option.bind_none, map_some_eq_ok_iff, means]
    simp [Document.Gives, Document.leaf?, Document.follow]

end Yaml

namespace Config

variable {δ α β γ : Type} {document : Document} {path : Path} {node : Node}
  {entries : List (Node × Node)}

/-! ## Fields -/

theorem kept {p : Prop} {name : String} {get : δ → Option γ} {set : δ → γ → δ} {decode : Decoder γ}
    (other : δ → Option β) (apart : ∀ draft value, other (set draft value) = other draft) :
    p → ∀ {draft document path node after},
      (field name get set decode).read draft document path node = .ok after →
        other after = other draft :=
  fun _ _ _ _ _ _ read => get_of_read other read apart

theorem hasField_postgres :
    HasField databaseRecord "postgres" DatabaseDraft.postgres?
      (fun draft value => { draft with postgres? := value }) decodeText where
  found := rfl
  own _ _ := rfl
  others := List.forall_mem_singleton.mpr fun other => absurd rfl other
  blank := rfl

theorem hasField_password :
    HasField seedRecord "password" SeedDraft.password?
      (fun draft value => { draft with password? := value }) decodeText where
  found := rfl
  own _ _ := rfl
  others := by
    simp only [seedRecord, List.forall_mem_cons]
    exact ⟨kept _ fun _ _ => rfl, fun other => absurd rfl other, kept _ fun _ _ => rfl,
      kept _ fun _ _ => rfl, List.forall_mem_nil _⟩
  blank := rfl

theorem hasField_maxUniqueAttempts :
    HasField seedRecord "max_unique_attempts" SeedDraft.maxUniqueAttempts?
      (fun draft value => { draft with maxUniqueAttempts? := value })
      (decodeNatural "usize") where
  found := rfl
  own _ _ := rfl
  others := by
    simp only [seedRecord, List.forall_mem_cons]
    exact ⟨kept _ fun _ _ => rfl, kept _ fun _ _ => rfl, fun other => absurd rfl other,
      kept _ fun _ _ => rfl, List.forall_mem_nil _⟩
  blank := rfl

theorem hasField_rngSeed :
    HasField seedRecord "rng_seed" SeedDraft.rngSeed?
      (fun draft value => { draft with rngSeed? := some value })
      (decodeOption (decodeNatural "u64")) where
  found := rfl
  own _ _ := rfl
  others := by
    simp only [seedRecord, List.forall_mem_cons]
    exact ⟨kept _ fun _ _ => rfl, kept _ fun _ _ => rfl, kept _ fun _ _ => rfl,
      fun other => absurd rfl other, List.forall_mem_nil _⟩
  blank := rfl

theorem hasField_database :
    HasField record "database" Draft.postgres?
      (fun draft value => { draft with postgres? := value }) databaseRecord.decode where
  found := rfl
  own _ _ := rfl
  others := by
    simp only [record, List.forall_mem_cons]
    exact ⟨fun other => absurd rfl other, kept _ fun _ _ => rfl, kept _ fun _ _ => rfl,
      List.forall_mem_nil _⟩
  blank := rfl

theorem hasField_production :
    HasField record "production" Draft.production?
      (fun draft value => { draft with production? := value }) decodeBoolean where
  found := rfl
  own _ _ := rfl
  others := by
    simp only [record, List.forall_mem_cons]
    exact ⟨kept _ fun _ _ => rfl, fun other => absurd rfl other, kept _ fun _ _ => rfl,
      List.forall_mem_nil _⟩
  blank := rfl

/-! ## Meaning -/

/-- Whether the section of a database means a connection string. -/
structure MeansDatabase (document : Document) (entries : List (Node × Node)) (postgres : String) :
    Prop where
  orderly : Orderly document ["postgres"] entries
  postgres : Says document entries "postgres" (document.Gives Leaf.text?) none postgres

/-- Whether the section of a seed means how users are made. -/
structure MeansSeed (document : Document) (entries : List (Node × Node)) (seed : SeedSettings) :
    Prop where
  orderly : Orderly document ["users", "password", "max_unique_attempts", "rng_seed"] entries
  users : Says document entries "users" (document.Gives Leaf.natural?) (some 100) seed.users
  password :
    Says document entries "password" (document.Gives Leaf.text?) (some "password123") seed.password
  maxUniqueAttempts : Says document entries "max_unique_attempts" (document.Gives Leaf.natural?)
    (some 1000) seed.maxUniqueAttempts
  rngSeed : Says document entries "rng_seed" (document.Gives (Leaf.optional? Leaf.natural?))
    (some none) seed.rngSeed?

/-- Whether a node is a section that means something. -/
def IsSection (document : Document) (means : List (Node × Node) → α → Prop) (node : Node)
    (value : α) : Prop :=
  ∃ entries, document.entries? node = some entries ∧ means entries value

/-- Whether the entries of a document mean settings. -/
structure MeansConfig (document : Document) (entries : List (Node × Node)) (config : Config) :
    Prop where
  orderly : Orderly document ["database", "production", "seed"] entries
  database :
    Says document entries "database" (IsSection document (MeansDatabase document)) none
      config.postgres
  production :
    Says document entries "production" (document.Gives Leaf.boolean?) (some false) config.production
  seed :
    Says document entries "seed" (IsSection document (MeansSeed document)) (some {}) config.seed

/-- Whether a document means settings: there is nothing wrong with it, nothing comes after it, and
its entries mean them. -/
structure Means (document : Document) (config : Config) : Prop where
  whole : document.fault? = none
  alone : document.goesOn = false
  root : IsSection document (MeansConfig document) document.root config

/-! ## Reading -/

theorem forall_known_seedRecord {p : String → Prop} : (∀ name ∈ known seedRecord, p name) ↔
    p "users" ∧ p "password" ∧ p "max_unique_attempts" ∧ p "rng_seed" := by
  simp [known, seedRecord, field]

theorem forall_known_record {p : String → Prop} :
    (∀ name ∈ known record, p name) ↔ p "database" ∧ p "production" ∧ p "seed" := by
  simp [known, record, field]

theorem or_some_eq_some_iff {value? : Option α} {default value : α} :
    value?.or (some default) = some value ↔ value?.getD default = value := by
  cases value? <;> simp

/-- A record is read from a node of a document just if the node is a section that means it. -/
theorem decode_eq_ok_iff_isSection {record : Record δ α} {means : List (Node × Node) → α → Prop}
    (built : node.Built document.items)
    (sound : ∀ entries draft result, document.Owns entries →
      entries.foldlM (record.readEntry document path) record.blank = .ok draft →
      (means entries result ↔ record.finish draft = .ok result))
    (complete : ∀ entries result, document.Owns entries → means entries result →
      ∃ draft, entries.foldlM (record.readEntry document path) record.blank = .ok draft)
    (result : α) :
    record.decode document path node = .ok result ↔ IsSection document means node result := by
  rw [decode_eq_ok_iff]
  refine exists_congr fun entries => and_congr_right fun found => ?_
  have owns := owns_entries? built found
  constructor
  · rintro ⟨draft, read, finished⟩
    exact (sound entries draft result owns read).mpr finished
  · intro meant
    obtain ⟨draft, read⟩ := complete entries result owns meant
    exact ⟨draft, read, (sound entries draft result owns read).mp meant⟩

theorem isField_postgres (document : Document) :
    IsField databaseRecord document "postgres" DatabaseDraft.postgres?
      (document.Gives Leaf.text?) :=
  ⟨_, _, hasField_postgres, fun _ _ _ _ => decodeText_eq_ok_iff⟩

theorem decode_databaseRecord (built : node.Built document.items) (postgres : String) :
    databaseRecord.decode document path node = .ok postgres ↔
      IsSection document (MeansDatabase document) node postgres := by
  have isField := isField_postgres document
  refine decode_eq_ok_iff_isSection built (fun entries draft result owns read => ?_)
    (fun entries result owns means => ?_) postgres
  · have said := isField.said_iff owns read none result
    rw [Option.or_none] at said
    have finish : databaseRecord.finish draft = .ok result ↔ draft.postgres? = some result := by
      simp only [databaseRecord]
      cases draft.postgres? <;> simp
    rw [finish, ← said]
    refine ⟨fun means => means.postgres, fun postgres => ⟨?_, postgres⟩⟩
    exact orderly_of_foldlM owns (List.forall_mem_singleton.mpr ⟨_, _, _, isField⟩) read
  · refine exists_foldlM owns (fun _ => means.orderly.isKeyed)
      (List.forall_mem_singleton.mpr ?_)
    exact isField.awaits (means.orderly.once _ List.mem_cons_self) means.postgres

section
variable (document)

theorem isField_users :
    IsField seedRecord document "users" SeedDraft.users? (document.Gives Leaf.natural?) :=
  ⟨_, _, hasField_users, fun _ _ _ _ => decodeNatural_eq_ok_iff⟩

theorem isField_password :
    IsField seedRecord document "password" SeedDraft.password? (document.Gives Leaf.text?) :=
  ⟨_, _, hasField_password, fun _ _ _ _ => decodeText_eq_ok_iff⟩

theorem isField_maxUniqueAttempts :
    IsField seedRecord document "max_unique_attempts" SeedDraft.maxUniqueAttempts?
      (document.Gives Leaf.natural?) :=
  ⟨_, _, hasField_maxUniqueAttempts, fun _ _ _ _ => decodeNatural_eq_ok_iff⟩

theorem isField_rngSeed (targeted : Targeted document.items) :
    IsField seedRecord document "rng_seed" SeedDraft.rngSeed?
      (document.Gives (Leaf.optional? Leaf.natural?)) :=
  ⟨_, _, hasField_rngSeed, fun _ _ _ built =>
    decodeOption_eq_ok_iff targeted built fun _ _ => decodeNatural_eq_ok_iff⟩

theorem isField_database :
    IsField record document "database" Draft.postgres?
      (IsSection document (MeansDatabase document)) :=
  ⟨_, _, hasField_database, fun _ _ postgres built => decode_databaseRecord built postgres⟩

theorem isField_production :
    IsField record document "production" Draft.production? (document.Gives Leaf.boolean?) :=
  ⟨_, _, hasField_production, fun _ _ _ _ => decodeBoolean_eq_ok_iff⟩

end

theorem decode_seedRecord (targeted : Targeted document.items) (built : node.Built document.items)
    (seed : SeedSettings) :
    seedRecord.decode document path node = .ok seed ↔
      IsSection document (MeansSeed document) node seed := by
  have users := isField_users document
  have password := isField_password document
  have maxUniqueAttempts := isField_maxUniqueAttempts document
  have rngSeed := isField_rngSeed document targeted
  refine decode_eq_ok_iff_isSection built (fun entries draft result owns read => ?_)
    (fun entries result owns means => ?_) seed
  · have saidUsers := users.said_iff owns read (some 100) result.users
    have saidPassword := password.said_iff owns read (some "password123") result.password
    have saidAttempts :=
      maxUniqueAttempts.said_iff owns read (some 1000) result.maxUniqueAttempts
    have saidSeed := rngSeed.said_iff owns read (some none) result.rngSeed?
    rw [or_some_eq_some_iff] at saidUsers saidPassword saidAttempts saidSeed
    constructor
    · intro means
      have finished : draft.finish = result := by
        unfold SeedDraft.finish
        simp only
        rw [saidUsers.mp means.users, saidPassword.mp means.password,
          saidAttempts.mp means.maxUniqueAttempts, saidSeed.mp means.rngSeed]
      exact congrArg Except.ok finished
    · rintro finished
      obtain rfl : draft.finish = result := Except.ok.inj finished
      refine ⟨orderly_of_foldlM owns ?_ read, saidUsers.mpr rfl, saidPassword.mpr rfl,
        saidAttempts.mpr rfl, saidSeed.mpr rfl⟩
      exact forall_known_seedRecord.mpr ⟨⟨_, _, _, users⟩, ⟨_, _, _, password⟩,
        ⟨_, _, _, maxUniqueAttempts⟩, ⟨_, _, _, rngSeed⟩⟩
  · refine exists_foldlM owns (fun _ => means.orderly.isKeyed) ?_
    have once := means.orderly.once
    exact forall_known_seedRecord.mpr ⟨users.awaits (once _ (by simp)) means.users,
      password.awaits (once _ (by simp)) means.password,
      maxUniqueAttempts.awaits (once _ (by simp)) means.maxUniqueAttempts,
      rngSeed.awaits (once _ (by simp)) means.rngSeed⟩

theorem isField_seed (targeted : Targeted document.items) :
    IsField record document "seed" Draft.seed? (IsSection document (MeansSeed document)) :=
  ⟨_, _, hasField_seed, fun _ _ seed built => decode_seedRecord targeted built seed⟩

theorem finish_eq_ok_iff {draft : Draft} {config : Config} :
    record.finish draft = .ok config ↔ draft.postgres? = some config.postgres ∧
      draft.production?.getD false = config.production ∧ draft.seed?.getD {} = config.seed := by
  simp only [record]
  cases draft.postgres? with
  | none => simp
  | some postgres =>
    obtain ⟨postgres', production, seed⟩ := config
    simp

theorem decode_record (targeted : Targeted document.items) (built : node.Built document.items)
    (config : Config) :
    record.decode document path node = .ok config ↔
      IsSection document (MeansConfig document) node config := by
  have database := isField_database document
  have production := isField_production document
  have seed := isField_seed targeted
  refine decode_eq_ok_iff_isSection built (fun entries draft result owns read => ?_)
    (fun entries result owns means => ?_) config
  · have saidDatabase := database.said_iff owns read none result.postgres
    have saidProduction := production.said_iff owns read (some false) result.production
    have saidSeed := seed.said_iff owns read (some {}) result.seed
    rw [Option.or_none] at saidDatabase
    rw [or_some_eq_some_iff] at saidProduction saidSeed
    rw [finish_eq_ok_iff, ← saidDatabase, ← saidProduction, ← saidSeed]
    constructor
    · intro means
      exact ⟨means.database, means.production, means.seed⟩
    · rintro ⟨isDatabase, isProduction, isSeed⟩
      refine ⟨orderly_of_foldlM owns ?_ read, isDatabase, isProduction, isSeed⟩
      exact forall_known_record.mpr ⟨⟨_, _, _, database⟩, ⟨_, _, _, production⟩, ⟨_, _, _, seed⟩⟩
  · refine exists_foldlM owns (fun _ => means.orderly.isKeyed) ?_
    have once := means.orderly.once
    exact forall_known_record.mpr ⟨database.awaits (once _ (by simp)) means.database,
      production.awaits (once _ (by simp)) means.production,
      seed.awaits (once _ (by simp)) means.seed⟩

theorem ofText_eq_ok_iff {text : String} {config : Config} :
    ofText text = .ok config ↔ Means (.ofText text.toList) config := by
  have root := @decode_record _ [] _ (targeted_ofText text.toList)
    (built_nodeAt (.ofText text.toList) 0) config
  rw [ofText]
  generalize Document.ofText text.toList = document at root
  rw [Document.decode, bind_eq_ok_iff]
  constructor
  · rintro ⟨value, read, rest⟩
    split at rest
    · cases rest
    · split at rest
      · cases rest
      · rename_i whole alone
        cases rest
        exact ⟨whole, Bool.eq_false_iff.mpr alone, root.mp read⟩
  · intro means
    refine ⟨config, root.mpr means.root, ?_⟩
    simp [means.whole, means.alone, pure, Except.pure]

end Config
end Seedbed

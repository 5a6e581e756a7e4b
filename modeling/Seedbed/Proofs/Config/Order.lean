import Seedbed.Proofs.Config.Meaning

/-!
# The order of settings

Two documents mean the same settings if their entries that count are the same, in whatever order
they are written and whatever else is written among them (`ofText_means`). An entry with an unknown
name and a whole value does not count.
-/

namespace Seedbed.Config

open Yaml

variable {α β : Type} {document document' : Document} {names : List String} {name : String}
  {node node' : Node} {entry entry' : Node × Node} {entries entries' : List (Node × Node)}
  {alike : String → Node → Node → Prop}

/-! ## Entries that count -/

/-- Whether an entry is passed over: its name is not known, and its value is whole. -/
def passedOver (document : Document) (names : List String) (entry : Node × Node) : Bool :=
  match document.text? entry.1 with
  | some name => !names.contains name && entry.2.isWhole
  | none => false

theorem passedOver_iff : passedOver document names entry ↔
    ∃ name, document.text? entry.1 = some name ∧ name ∉ names ∧ entry.2.isWhole := by
  unfold passedOver
  cases document.text? entry.1 <;> simp

theorem not_passedOver (named : document.text? entry.1 = some name) (own : name ∈ names) :
    passedOver document names entry = false := by
  simp [passedOver, named, own]

/-- Whether the entries that count are the same in two mappings, in whatever order they are. -/
def SameEntries (document document' : Document) (names : List String)
    (alike : String → Node → Node → Prop) (entries entries' : List (Node × Node)) : Prop :=
  ∃ pairs : List ((Node × Node) × (Node × Node)),
    (pairs.map Prod.fst).Perm (entries.filter (! passedOver document names ·)) ∧
    (pairs.map Prod.snd).Perm (entries'.filter (! passedOver document' names ·)) ∧
    ∀ pair ∈ pairs, document.text? pair.1.1 = document'.text? pair.2.1 ∧
      ∀ name, document.text? pair.1.1 = some name → alike name pair.1.2 pair.2.2

namespace SameEntries

theorem symm (same : SameEntries document document' names alike entries entries') :
    SameEntries document' document names (fun name node node' => alike name node' node)
      entries' entries := by
  obtain ⟨pairs, first, second, twins⟩ := same
  refine ⟨pairs.map Prod.swap, by simpa [Function.comp_def], by simpa [Function.comp_def], ?_⟩
  intro pair member
  obtain ⟨source, inside, rfl⟩ := List.mem_map.mp member
  obtain ⟨text, values⟩ := twins source inside
  exact ⟨text.symm, fun name named => values name (text.trans named)⟩

/-- Every entry that counts has a twin. -/
theorem twin (same : SameEntries document document' names alike entries entries')
    (member : entry' ∈ entries') (counts : passedOver document' names entry' = false) :
    ∃ entry ∈ entries, passedOver document names entry = false ∧
      document.text? entry.1 = document'.text? entry'.1 ∧
      ∀ name, document.text? entry.1 = some name → alike name entry.2 entry'.2 := by
  obtain ⟨pairs, first, second, twins⟩ := same
  have paired : entry' ∈ pairs.map Prod.snd :=
    second.mem_iff.mpr (List.mem_filter.mpr ⟨member, by rw [counts]; rfl⟩)
  obtain ⟨pair, inside, rfl⟩ := List.mem_map.mp paired
  have kept := first.mem_iff.mp (List.mem_map_of_mem inside)
  obtain ⟨among, counts⟩ := List.mem_filter.mp kept
  exact ⟨pair.1, among, by simpa using counts, twins pair inside⟩

theorem count_filter (own : name ∈ names) :
    document.count name (entries.filter (! passedOver document names ·)) =
      document.count name entries := by
  unfold Document.count
  rw [List.countP_filter]
  refine List.countP_congr fun entry _ => ?_
  rw [Bool.and_eq_true, Bool.not_eq_true', and_iff_left_iff_imp]
  intro named
  exact not_passedOver (names_iff.mp named) own

/-- A known name is given equally often. -/
theorem count_eq (same : SameEntries document document' names alike entries entries')
    (own : name ∈ names) : document.count name entries = document'.count name entries' := by
  obtain ⟨pairs, first, second, twins⟩ := same
  rw [← count_filter own, ← @count_filter document' _ _ _ own]
  unfold Document.count
  rw [← first.countP_eq, ← second.countP_eq, List.countP_map, List.countP_map]
  refine List.countP_congr fun pair member => ?_
  simp only [Function.comp_apply, names_iff, (twins pair member).1]

end SameEntries

theorem Orderly.transfer (orderly : Orderly document names entries)
    (same : SameEntries document document' names alike entries entries') :
    Orderly document' names entries' where
  keyed entry' member := by
    cases passed : passedOver document' names entry' with
    | true =>
      obtain ⟨name, named, -⟩ := passedOver_iff.mp passed
      exact ⟨name, named⟩
    | false =>
      obtain ⟨entry, among, -, text, -⟩ := same.twin member passed
      rw [← text]
      exact orderly.keyed entry among
  once name own := by
    rw [← same.count_eq own]
    exact orderly.once name own
  whole entry' member name named other := by
    cases passed : passedOver document' names entry' with
    | true =>
      obtain ⟨-, -, -, whole⟩ := passedOver_iff.mp passed
      exact whole
    | false =>
      -- the twin has the same unknown name, and as it counts its value is not whole
      obtain ⟨entry, among, counts, text, -⟩ := same.twin member passed
      have named := text.trans named
      have whole := orderly.whole entry among name named other
      have passed := passedOver_iff.mpr ⟨name, named, other, whole⟩
      rw [counts] at passed
      cases passed

theorem Says.transfer {holds holds' : Node → β → Prop} {default? : Option β} {value : β}
    (said : Says document entries name holds default? value)
    (same : SameEntries document document' names alike entries entries') (own : name ∈ names)
    (values : ∀ node node', alike name node node' → holds node value → holds' node' value) :
    Says document' entries' name holds' default? value where
  present entry' member named := by
    obtain ⟨entry, among, -, text, alike⟩ := same.twin member (not_passedOver named own)
    have named := text.trans named
    exact values entry.2 entry'.2 (alike name named) (said.present entry among named)
  absent none := by
    refine said.absent fun entry member named => ?_
    obtain ⟨entry', among, -, text, -⟩ := same.symm.twin member (not_passedOver named own)
    exact none entry' among (text.trans named)

/-! ## Sections -/

/-- Whether two nodes are the same scalar. -/
def SameLeaf (document document' : Document) (node node' : Node) : Prop :=
  document.leaf? node = document'.leaf? node'

/-- Whether two nodes are sections with the same entries, or neither of them is one. -/
def SameSection (document document' : Document) (names : List String)
    (alike : String → Node → Node → Prop) (node node' : Node) : Prop :=
  Option.Rel (SameEntries document document' names alike) (document.entries? node)
    (document'.entries? node')

/-- Whether two nodes are the same as values of a name at the top of a document. -/
def SameValue (document document' : Document) : String → Node → Node → Prop
  | "database" => SameSection document document' ["postgres"] fun _ => SameLeaf document document'
  | "seed" =>
    SameSection document document' ["users", "password", "max_unique_attempts", "rng_seed"]
      fun _ => SameLeaf document document'
  | _ => SameLeaf document document'

/-- Whether two documents have the same entries that count. -/
structure Same (document document' : Document) : Prop where
  whole : document.fault? = none ↔ document'.fault? = none
  alone : document.goesOn = document'.goesOn
  root : SameSection document document' ["database", "production", "seed"]
    (SameValue document document') document.root document'.root

theorem SameSection.symm (same : SameSection document document' names alike node node') :
    SameSection document' document names (fun name node node' => alike name node' node)
      node' node := by
  unfold SameSection at same ⊢
  generalize document.entries? node = found, document'.entries? node' = found' at same
  cases same with
  | none => exact .none
  | some same => exact .some same.symm

theorem SameEntries.mono {alike' : String → Node → Node → Prop}
    (same : SameEntries document document' names alike entries entries')
    (weaker : ∀ name node node', alike name node node' → alike' name node node') :
    SameEntries document document' names alike' entries entries' := by
  obtain ⟨pairs, first, second, twins⟩ := same
  refine ⟨pairs, first, second, fun pair member => ?_⟩
  obtain ⟨text, values⟩ := twins pair member
  exact ⟨text, fun name named => weaker name _ _ (values name named)⟩

theorem SameSection.mono {alike' : String → Node → Node → Prop}
    (same : SameSection document document' names alike node node')
    (weaker : ∀ name node node', alike name node node' → alike' name node node') :
    SameSection document document' names alike' node node' := by
  unfold SameSection at same ⊢
  generalize document.entries? node = found, document'.entries? node' = found' at same
  cases same with
  | none => exact .none
  | some same => exact .some (same.mono weaker)

theorem SameValue.symm (same : SameValue document document' name node node') :
    SameValue document' document name node' node := by
  unfold SameValue at same ⊢
  split at same
  · exact same.symm.mono fun _ _ _ => Eq.symm
  · exact same.symm.mono fun _ _ _ => Eq.symm
  · exact Eq.symm same

theorem Same.symm (same : Same document document') : Same document' document where
  whole := same.whole.symm
  alone := same.alone.symm
  root := same.root.symm.mono fun _ _ _ => SameValue.symm

theorem SameLeaf.gives {read : Leaf → Option α} {value : α}
    (same : SameLeaf document document' node node') (gives : document.Gives read node value) :
    document'.Gives read node' value := by
  unfold Document.Gives at gives ⊢
  rwa [← same]

theorem IsSection.transfer {means means' : List (Node × Node) → α → Prop} {value : α}
    (isSection : IsSection document means node value)
    (same : SameSection document document' names alike node node')
    (inside : ∀ entries entries', SameEntries document document' names alike entries entries' →
      means entries value → means' entries' value) :
    IsSection document' means' node' value := by
  obtain ⟨entries, found, meant⟩ := isSection
  unfold SameSection at same
  rw [found] at same
  cases found' : document'.entries? node' with
  | none =>
    rw [found'] at same
    cases same
  | some entries' =>
    rw [found'] at same
    cases same with
    | some same => exact ⟨entries', found', inside entries entries' same meant⟩

/-! ## Settings -/

theorem MeansDatabase.transfer {postgres : String}
    (means : MeansDatabase document entries postgres)
    (same : SameEntries document document' ["postgres"] (fun _ => SameLeaf document document')
      entries entries') : MeansDatabase document' entries' postgres where
  orderly := means.orderly.transfer same
  postgres := means.postgres.transfer same (by simp) fun _ _ => SameLeaf.gives

theorem MeansSeed.transfer {seed : SeedSettings} (means : MeansSeed document entries seed)
    (same : SameEntries document document'
      ["users", "password", "max_unique_attempts", "rng_seed"]
      (fun _ => SameLeaf document document') entries entries') :
    MeansSeed document' entries' seed where
  orderly := means.orderly.transfer same
  users := means.users.transfer same (by simp) fun _ _ => SameLeaf.gives
  password := means.password.transfer same (by simp) fun _ _ => SameLeaf.gives
  maxUniqueAttempts := means.maxUniqueAttempts.transfer same (by simp) fun _ _ => SameLeaf.gives
  rngSeed := means.rngSeed.transfer same (by simp) fun _ _ => SameLeaf.gives

theorem MeansConfig.transfer {config : Config} (means : MeansConfig document entries config)
    (same : SameEntries document document' ["database", "production", "seed"]
      (SameValue document document') entries entries') :
    MeansConfig document' entries' config where
  orderly := means.orderly.transfer same
  database := by
    refine means.database.transfer same (by simp) fun node node' alike isSection => ?_
    exact isSection.transfer alike fun _ _ same means => means.transfer same
  production := means.production.transfer same (by simp) fun _ _ => SameLeaf.gives
  seed := by
    refine means.seed.transfer same (by simp) fun node node' alike isSection => ?_
    exact isSection.transfer alike fun _ _ same means => means.transfer same

theorem Means.transfer {config : Config} (means : Means document config)
    (same : Same document document') : Means document' config where
  whole := same.whole.mp means.whole
  alone := same.alone ▸ means.alone
  root := means.root.transfer same.root fun _ _ same means => means.transfer same

/-- The settings of a text are those that its document means, and they are the same for every text
with the same entries that count. -/
theorem ofText_means (text : String) :
    (∀ config, ofText text = .ok config ↔ Means (.ofText text.toList) config) ∧
    ∀ text' : String, Same (.ofText text.toList) (.ofText text'.toList) →
      ∀ config, ofText text = .ok config ↔ ofText text' = .ok config := by
  refine ⟨fun config => ofText_eq_ok_iff, fun text' same config => ?_⟩
  rw [ofText_eq_ok_iff, ofText_eq_ok_iff]
  exact ⟨fun means => means.transfer same, fun means => means.transfer same.symm⟩

theorem document_eq {text : List Char} {items : List Item}
    (read : (Document.ofText text).items = items) (whole : (Document.ofText text).fault? = none)
    (alone : (Document.ofText text).goesOn = false) : Document.ofText text = { items } := by
  generalize Document.ofText text = document at read whole alone
  cases document
  simp_all

/-- Two texts of one line that give the same entries in another order, with one that is passed
over. -/
theorem ofText_means_rearranged :
    Same (.ofText "{database: {postgres: x}, production: true}".toList)
      (.ofText "{production: true, note: [], database: {postgres: x}}".toList) ∧
    ofText "{production: true, note: [], database: {postgres: x}}" =
      .ok { postgres := "x", production := true } := by
  let item (column : Nat) (text : String) : Item :=
    .scalar ⟨column, 0, column⟩ { text := text.toList }
  let word (column : Nat) (text : String) : Node :=
    .scalar ⟨column, 0, column⟩ { text := text.toList }
  have first : Document.ofText "{database: {postgres: x}, production: true}".toList =
      { items := [.mappingStart ⟨0, 0, 0⟩, item 1 "database", .mappingStart ⟨11, 0, 11⟩,
          item 12 "postgres", item 22 "x", .mappingEnd, item 26 "production",
          item 38 "true", .mappingEnd] } :=
    document_eq (by decide +kernel) (by decide +kernel) (by decide +kernel)
  have second : Document.ofText "{production: true, note: [], database: {postgres: x}}".toList =
      { items := [.mappingStart ⟨0, 0, 0⟩, item 1 "production", item 13 "true",
          item 19 "note", .sequenceStart ⟨25, 0, 25⟩, .sequenceEnd, item 29 "database",
          .mappingStart ⟨39, 0, 39⟩, item 40 "postgres", item 50 "x", .mappingEnd,
          .mappingEnd] } :=
    document_eq (by decide +kernel) (by decide +kernel) (by decide +kernel)
  have same : Same (.ofText "{database: {postgres: x}, production: true}".toList)
      (.ofText "{production: true, note: [], database: {postgres: x}}".toList) := by
    rw [first, second]
    let database :=
      ((word 1 "database", Node.mapping ⟨11, 0, 11⟩ [(word 12 "postgres", word 22 "x")]),
        (word 29 "database", Node.mapping ⟨39, 0, 39⟩ [(word 40 "postgres", word 50 "x")]))
    let production :=
      ((word 26 "production", word 38 "true"), (word 1 "production", word 13 "true"))
    have postgres (document document' : Document) : SameSection document document' ["postgres"]
        (fun _ => SameLeaf document document') database.1.2 database.2.2 :=
      .some ⟨[((word 12 "postgres", word 22 "x"), (word 40 "postgres", word 50 "x"))], .refl _,
        .refl _, List.forall_mem_singleton.mpr ⟨rfl, fun _ _ => rfl⟩⟩
    refine ⟨Iff.rfl, rfl, .some ⟨[database, production], .refl _, .swap _ _ _, ?_⟩⟩
    refine List.forall_mem_cons.mpr ⟨⟨rfl, ?_⟩, List.forall_mem_singleton.mpr ⟨rfl, ?_⟩⟩
    · intro name named
      obtain rfl : "database" = name := Option.some.inj named
      exact postgres _ _
    · intro name named
      obtain rfl : "production" = name := Option.some.inj named
      exact (rfl : Document.leaf? _ _ = Document.leaf? _ _)
  refine ⟨same, ((ofText_means _).2 _ same _).mp ?_⟩
  rw [ofText, first]
  rfl

end Seedbed.Config

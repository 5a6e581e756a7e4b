import Seedbed.Proofs.Config.Entries
import Seedbed.Proofs.Yaml.Aliases

/-!
# Records and their entries

What a record is read from: entries whose keys are texts, each name of a field once at most, and
values of other names that are whole (`Orderly`). Given that the values of its names can be read
too, a record is read from such entries and no others (`exists_foldlM`, `orderly_of_foldlM`),
whatever their order is, and each field is what the entry with its name holds (`IsField.said_iff`).
-/

namespace Seedbed

open Yaml

/-! ## Nodes without aliases -/

namespace Yaml

/-- What a node is that is no collection. -/
inductive Leaf where
  | void
  | scalar (content : Scalar)
  deriving DecidableEq

/-- The text of a scalar. -/
def Leaf.text? : Leaf → Option String
  | .void => none
  | .scalar content => some (String.ofList content.text)

namespace Document

/-- What a node stands for, if it is no collection. -/
def leaf? (document : Document) (node : Node) : Option Leaf :=
  match document.follow node with
  | .void _ => some .void
  | .scalar _ content => some (.scalar content)
  | _ => none

/-- The text that a node stands for, as keys do. -/
def text? (document : Document) (node : Node) : Option String :=
  (document.leaf? node).bind Leaf.text?

/-- The entries of what a record may be read from: a mapping, or nothing at all, which has none. -/
def entries? (document : Document) (node : Node) : Option (List (Node × Node)) :=
  match document.follow node with
  | .mapping _ entries => some entries
  | .void _ => some []
  | .scalar _ content => if content.text.isEmpty && content.style = .plain then some [] else none
  | _ => none

/-- Whether the values of entries are nodes of a document. -/
def Owns (document : Document) (entries : List (Node × Node)) : Prop :=
  ∀ entry ∈ entries, entry.2.Built document.items

/-- How many entries have a name. -/
def count (document : Document) (name : String) (entries : List (Node × Node)) : Nat :=
  entries.countP fun entry => document.names name entry.1

end Document

variable {document : Document} {path : Path} {key : Node} {name : String} {entry : Node × Node}
  {entries : List (Node × Node)}

theorem count_cons_of_names (named : document.names name entry.1) :
    document.count name (entry :: entries) = document.count name entries + 1 :=
  List.countP_cons_of_pos named

theorem count_cons_of_not (other : ¬ document.names name entry.1) :
    document.count name (entry :: entries) = document.count name entries :=
  List.countP_cons_of_neg other

theorem count_eq_zero_iff :
    document.count name entries = 0 ↔ ∀ entry ∈ entries, ¬ document.names name entry.1 :=
  List.countP_eq_zero

theorem names_iff : document.names name key ↔ document.text? key = some name := by
  unfold Document.names Document.text? Document.leaf?
  cases document.follow key <;> simp [Leaf.text?]

theorem owns_entries? {node : Node} (built : node.Built document.items)
    (found : document.entries? node = some entries) : document.Owns entries := by
  have built := built.follow
  unfold Document.entries? at found
  generalize document.follow node = node at found built
  cases built with
  | mapping place inside keys values =>
    cases found
    exact values
  | void place =>
    cases found
    exact List.forall_mem_nil _
  | scalar place content =>
    obtain ⟨-, same⟩ := Option.ite_none_right_eq_some.mp found
    cases same
    exact List.forall_mem_nil _
  | _ => cases found

theorem readKey_of_text? (named : document.text? key = some name) :
    ∃ step, Record.readKey document path key = .ok (name, step) := by
  unfold Document.text? Document.leaf? at named
  unfold Record.readKey
  cases followed : document.follow key with
  | scalar place content =>
    rw [followed] at named
    cases named
    exact ⟨_, rfl⟩
  | _ =>
    rw [followed] at named
    cases named

theorem text?_of_readKey {text step : String}
    (read : Record.readKey document path key = .ok (text, step)) :
    document.text? key = some text :=
  names_iff.mp ((names_of_readKey read text).trans (beq_self_eq_true text))

end Yaml

namespace Config

variable {δ α β : Type} {record : Record δ α} {document : Document} {path : Path}
  {entry : Node × Node} {entries : List (Node × Node)} {draft after : δ}

/-! ## Orderly entries -/

/-- Whether entries can be told apart: their keys are texts, no known name is given twice, and what
another name gives is whole. -/
structure Orderly (document : Document) (known : List String) (entries : List (Node × Node)) :
    Prop where
  keyed : ∀ entry ∈ entries, ∃ name, document.text? entry.1 = some name
  once : ∀ name ∈ known, document.count name entries ≤ 1
  whole : ∀ entry ∈ entries, ∀ name, document.text? entry.1 = some name → name ∉ known →
    entry.2.isWhole

/-- A value is taken from the entries of a name. Where there are none it is the default, and without
a default there must be one. -/
structure Says (document : Document) (entries : List (Node × Node)) (name : String)
    (holds : Node → β → Prop) (default? : Option β) (value : β) : Prop where
  present : ∀ entry ∈ entries, document.text? entry.1 = some name → holds entry.2 value
  absent : (∀ entry ∈ entries, document.text? entry.1 ≠ some name) → default? = some value

/-! ## Fields -/

/-- Whether a field of a record is read from the nodes that hold a value, whichever keys lead to
them, as far as they are nodes of the document. -/
def IsField (record : Record δ α) (document : Document) (name : String) (get : δ → Option β)
    (holds : Node → β → Prop) : Prop :=
  ∃ set decode, HasField record name get set decode ∧
    ∀ path node value, node.Built document.items →
      (decode document path node = .ok value ↔ holds node value)

namespace IsField

variable {name : String} {get : δ → Option β} {holds : Node → β → Prop}

theorem functional (isField : IsField record document name get holds) {node : Node}
    (built : node.Built document.items) {value value' : β} (held : holds node value)
    (held' : holds node value') : value = value' := by
  obtain ⟨set, decode, -, means⟩ := isField
  have taken := (means [] node value built).mpr held
  have taken' := (means [] node value' built).mpr held'
  exact Except.ok.inj (taken.symm.trans taken')

theorem get_blank (isField : IsField record document name get holds) : get record.blank = none := by
  obtain ⟨set, decode, has, -⟩ := isField
  exact has.blank

/-- What one entry does to a field. -/
theorem step (isField : IsField record document name get holds)
    (built : entry.2.Built document.items)
    (read : record.readEntry document path draft entry = .ok after) :
    if document.names name entry.1 then
      get draft = none ∧ ∃ value, holds entry.2 value ∧ get after = some value
    else get after = get draft := by
  obtain ⟨set, decode, has, means⟩ := isField
  have one := has.readEntry read
  split at one
  · rename_i named
    obtain ⟨unset, value, ⟨keys, taken⟩, set⟩ := one
    rw [if_pos named]
    exact ⟨unset, value, (means keys entry.2 value built).mp taken, set⟩
  · rename_i other
    rwa [if_neg other]

/-- What all entries do to a field. -/
theorem run (isField : IsField record document name get holds) (built : document.Owns entries)
    (read : entries.foldlM (record.readEntry document path) draft = .ok after) :
    (∀ entry ∈ entries, document.names name entry.1 →
      ∃ value, holds entry.2 value ∧ get after = some value) ∧
    ((∀ entry ∈ entries, ¬ document.names name entry.1) → get after = get draft) ∧
    (get draft).toList.length + document.count name entries ≤ 1 := by
  induction entries generalizing draft with
  | nil =>
    cases read
    refine ⟨nofun, fun _ => rfl, ?_⟩
    rw [count_eq_zero_iff.mpr (List.forall_mem_nil _)]
    cases get after <;> simp
  | cons entry entries ih =>
    obtain ⟨builtFirst, built⟩ := List.forall_mem_cons.mp built
    obtain ⟨middle, first, rest⟩ := bind_eq_ok_iff.mp read
    obtain ⟨present, absent, once⟩ := ih built rest
    have one := isField.step builtFirst first
    by_cases named : document.names name entry.1
    · rw [if_pos named] at one
      obtain ⟨unset, value, held, set⟩ := one
      -- the field is set now, so no later entry has its name
      rw [set, Option.toList_some, List.length_singleton] at once
      have others : ∀ entry ∈ entries, ¬ document.names name entry.1 :=
        count_eq_zero_iff.mp (by omega)
      refine ⟨List.forall_mem_cons.mpr ⟨fun _ => ⟨value, held, ?_⟩, present⟩, fun none => ?_, ?_⟩
      · rw [absent others, set]
      · exact absurd named (none entry List.mem_cons_self)
      · rw [count_cons_of_names named, count_eq_zero_iff.mpr others, unset]
        exact Nat.le_refl 1
    · rw [if_neg named] at one
      rw [one] at absent once
      refine ⟨List.forall_mem_cons.mpr ⟨fun own => absurd own named, present⟩, fun none => ?_, ?_⟩
      · exact absent fun entry later => none entry (List.mem_cons_of_mem _ later)
      · rwa [count_cons_of_not named]

/-- A field is what the entries with its name hold. -/
theorem said_iff (isField : IsField record document name get holds) (built : document.Owns entries)
    (read : entries.foldlM (record.readEntry document path) record.blank = .ok after)
    (default? : Option β) (value : β) :
    Says document entries name holds default? value ↔ (get after).or default? = some value := by
  obtain ⟨present, absent, -⟩ := isField.run built read
  by_cases some : ∃ entry ∈ entries, document.text? entry.1 = .some name
  · obtain ⟨entry, member, named⟩ := some
    obtain ⟨value', held, set⟩ := present entry member (names_iff.mpr named)
    rw [set, Option.some_or, Option.some.injEq]
    constructor
    · intro said
      exact isField.functional (built entry member) held (said.present entry member named)
    · rintro rfl
      refine ⟨fun entry member named => ?_, fun none => absurd named (none entry member)⟩
      obtain ⟨value, held, set'⟩ := present entry member (names_iff.mpr named)
      rwa [Option.some.inj (set.symm.trans set')]
  · have none : ∀ entry ∈ entries, document.text? entry.1 ≠ .some name := fun entry member named =>
      some ⟨entry, member, named⟩
    rw [absent fun entry member own => none entry member (names_iff.mp own), isField.get_blank,
      Option.none_or]
    exact ⟨fun said => said.absent none, fun standing =>
      ⟨fun entry member named => absurd named (none entry member), fun _ => standing⟩⟩

/-- An entry that sets a field is read if the field is not set yet. -/
theorem progress (isField : IsField record document name get holds) {value : β}
    (built : entry.2.Built document.items) (named : document.text? entry.1 = some name)
    (held : holds entry.2 value) (unset : get draft = none) :
    ∃ after, record.readEntry document path draft entry = .ok after := by
  obtain ⟨set, decode, has, means⟩ := isField
  obtain ⟨step, key⟩ := @readKey_of_text? _ path _ _ named
  refine ⟨set draft value, ?_⟩
  have taken := (means (step :: path) entry.2 value built).mpr held
  simp [Record.readEntry, key, has.found, field, unset, taken, bind, Except.bind, Except.map]

end IsField

/-! ## Records -/

/-- The names of a record's fields. -/
def known (record : Record δ α) : List String := record.fields.map RecordField.name

theorem find?_eq_none_of_not_known {name : String} (other : name ∉ known record) :
    record.fields.find? (·.name == name) = none := by
  refine List.find?_eq_none.mpr fun field member same => other ?_
  exact List.mem_map.mpr ⟨field, member, beq_iff_eq.mp same⟩

/-- Whether the key of an entry is a text, and its value whole if that is no name of a field. -/
def Keyed (record : Record δ α) (document : Document) (entry : Node × Node) : Prop :=
  ∃ name, document.text? entry.1 = some name ∧ (name ∉ known record → entry.2.isWhole)

theorem Orderly.isKeyed (orderly : Orderly document (known record) entries)
    (member : entry ∈ entries) : Keyed record document entry := by
  obtain ⟨name, named⟩ := orderly.keyed entry member
  exact ⟨name, named, orderly.whole entry member name named⟩

/-- Entries that were read have texts as keys. -/
theorem keyed_of_readEntry (read : record.readEntry document path draft entry = .ok after) :
    Keyed record document entry := by
  obtain ⟨⟨name, step⟩, key, rest⟩ := bind_eq_ok_iff.mp read
  refine ⟨name, text?_of_readKey key, fun other => ?_⟩
  simp only [find?_eq_none_of_not_known other] at rest
  split at rest
  · assumption
  · cases rest

theorem keyed_of_foldlM (read : entries.foldlM (record.readEntry document path) draft = .ok after)
    (member : entry ∈ entries) : Keyed record document entry := by
  induction entries generalizing draft with
  | nil => cases member
  | cons other entries ih =>
    obtain ⟨middle, first, rest⟩ := bind_eq_ok_iff.mp read
    rcases List.mem_cons.mp member with rfl | later
    · exact keyed_of_readEntry first
    · exact ih rest later

/-- Only orderly entries are read. -/
theorem orderly_of_foldlM (built : document.Owns entries)
    (fields : ∀ name ∈ known record, ∃ (β : Type) (get : δ → Option β) (holds : Node → β → Prop),
      IsField record document name get holds)
    (read : entries.foldlM (record.readEntry document path) record.blank = .ok after) :
    Orderly document (known record) entries where
  keyed entry member := by
    obtain ⟨name, named, -⟩ := keyed_of_foldlM read member
    exact ⟨name, named⟩
  once name own := by
    obtain ⟨β, get, holds, isField⟩ := fields name own
    obtain ⟨-, -, once⟩ := isField.run built read
    omega
  whole entry member name named other := by
    obtain ⟨name', named', whole⟩ := keyed_of_foldlM read member
    obtain rfl := Option.some.inj (named.symm.trans named')
    exact whole other

/-- Whether the entries with the name of a field set it, given that a draft may have it already. -/
def Awaits (record : Record δ α) (document : Document) (entries : List (Node × Node)) (draft : δ)
    (name : String) : Prop :=
  ∃ (β : Type) (get : δ → Option β) (holds : Node → β → Prop),
    IsField record document name get holds ∧
    (∀ entry ∈ entries, document.text? entry.1 = some name → ∃ value, holds entry.2 value) ∧
    (get draft).toList.length + document.count name entries ≤ 1

theorem IsField.awaits {name : String} {get : δ → Option β} {holds : Node → β → Prop}
    {default? : Option β} {value : β} (isField : IsField record document name get holds)
    (once : document.count name entries ≤ 1)
    (said : Says document entries name holds default? value) :
    Awaits record document entries record.blank name := by
  refine ⟨β, get, holds, isField, fun entry member named => ⟨value, ?_⟩, ?_⟩
  · exact said.present entry member named
  · rw [isField.get_blank, Option.toList_none, List.length_nil, Nat.zero_add]
    exact once

theorem Awaits.step {name : String} (awaits : Awaits record document (entry :: entries) draft name)
    (built : entry.2.Built document.items)
    (read : record.readEntry document path draft entry = .ok after) :
    Awaits record document entries after name := by
  obtain ⟨β, get, holds, isField, held, once⟩ := awaits
  refine ⟨β, get, holds, isField, (List.forall_mem_cons.mp held).2, ?_⟩
  have one := isField.step built read
  by_cases named : document.names name entry.1
  · rw [if_pos named] at one
    obtain ⟨unset, value, -, set⟩ := one
    rw [count_cons_of_names named, unset] at once
    rw [set]
    simpa [Nat.add_comm] using once
  · rw [if_neg named] at one
    rwa [count_cons_of_not named, ← one] at once

theorem exists_readEntry (built : entry.2.Built document.items)
    (keyed : Keyed record document entry)
    (fields : ∀ name ∈ known record, Awaits record document (entry :: entries) draft name) :
    ∃ after, record.readEntry document path draft entry = .ok after := by
  obtain ⟨name, named, whole⟩ := keyed
  by_cases own : name ∈ known record
  · obtain ⟨β, get, holds, isField, held, once⟩ := fields name own
    obtain ⟨value, held⟩ := held entry List.mem_cons_self named
    rw [count_cons_of_names (names_iff.mpr named)] at once
    have unset : get draft = none := by
      cases set : get draft with
      | none => rfl
      | some value =>
        rw [set, Option.toList_some, List.length_singleton] at once
        omega
    exact isField.progress built named held unset
  · obtain ⟨step, key⟩ := @readKey_of_text? _ path _ _ named
    refine ⟨draft, ?_⟩
    simp [Record.readEntry, key, find?_eq_none_of_not_known own, whole own, bind, Except.bind, pure,
      Except.pure]

/-- Entries whose values can be read are read, in whatever order they are. -/
theorem exists_foldlM (built : document.Owns entries)
    (keyed : ∀ entry ∈ entries, Keyed record document entry)
    (fields : ∀ name ∈ known record, Awaits record document entries draft name) :
    ∃ after, entries.foldlM (record.readEntry document path) draft = .ok after := by
  induction entries generalizing draft with
  | nil => exact ⟨draft, rfl⟩
  | cons entry entries ih =>
    obtain ⟨builtFirst, built⟩ := List.forall_mem_cons.mp built
    obtain ⟨keyedFirst, keyed⟩ := List.forall_mem_cons.mp keyed
    obtain ⟨middle, first⟩ := exists_readEntry builtFirst keyedFirst fields
    obtain ⟨after, rest⟩ := ih built keyed fun name own =>
      (fields name own).step builtFirst first
    exact ⟨after, bind_eq_ok_iff.mpr ⟨middle, first, rest⟩⟩

/-- A record is read from the entries of a node, if it has some. -/
theorem decode_eq_ok_iff {node : Node} {result : α} :
    record.decode document path node = .ok result ↔
      ∃ entries, document.entries? node = some entries ∧ ∃ after,
        entries.foldlM (record.readEntry document path) record.blank = .ok after ∧
        record.finish after = .ok result := by
  have mapped (entries : List (Node × Node)) (place : Place) :
      (record.readEntries document path entries).mapError (DecodeFault.placed path place) =
          .ok result ↔
        ∃ after, entries.foldlM (record.readEntry document path) record.blank = .ok after ∧
          record.finish after = .ok result := by
    rw [mapError_eq_ok_iff, Record.readEntries, bind_eq_ok_iff]
    refine exists_congr fun after => and_congr_right fun _ => ?_
    cases record.finish after <;> simp [pure, Except.pure, throw, throwThe, MonadExceptOf.throw]
  unfold Record.decode Document.entries?
  cases document.follow node with
  | mapping place entries => simp [mapped]
  | void place => simp only [mapped, Option.some.injEq, exists_eq_left']
  | scalar place content =>
    simp only
    split
    · simp only [mapped, Option.some.injEq, exists_eq_left']
    · simp
  | _ => simp

end Config
end Seedbed

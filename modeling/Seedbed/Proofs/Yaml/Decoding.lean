import Seedbed.Proofs.Yaml.Composing
import Seedbed.Yaml.Decode

/-!
# Decoding outlines

Texts, words and numbers are taken from the nodes of an outline as they were written. A record whose
entries are written once each is taken from them in any order: the draft depends on which fields
have been read, not on their order (`foldlM_readEntry`).
-/

namespace Seedbed.Yaml

/-! ## Numbers -/

/-- A number in decimal digits. -/
def Word.ofNat (number : Nat) : Word where
  letters := Nat.toDigits 10 number
  nonempty := Nat.toDigits_ne_nil
  plain c member := by
    have digit := Nat.isDigit_of_mem_toDigits (by decide) (by decide) member
    rw [isWordChar, Char.isAlphanum, digit, Bool.or_true, Bool.true_or]

theorem letters_ofNat (number : Nat) : (Word.ofNat number).letters = Nat.toDigits 10 number := rfl

variable {number : Nat}

theorem isDigit_of_mem_ofNat {c : Char} (member : c ∈ (Word.ofNat number).letters) : c.isDigit :=
  Nat.isDigit_of_mem_toDigits (by decide) (by decide) member

/-- A number other than zero is written without a zero before it. -/
theorem eq_zero_of_head?_ofNat (zero : (Word.ofNat number).letters.head? = some '0') :
    number = 0 := by
  rw [letters_ofNat] at zero
  induction number using Nat.strongRecOn with
  | ind number ih =>
    by_cases small : number < 10
    · rw [Nat.toDigits_of_lt_base small] at zero
      have digits : ∀ digit < 10, Nat.digitChar digit = '0' → digit = 0 := by decide
      exact digits number small (Option.some.inj zero)
    · have enough : 10 ≤ number := Nat.le_of_not_lt small
      have shorter : number / 10 < number := Nat.div_lt_self (by omega) (by decide)
      obtain ⟨digit, digits, written⟩ :=
        List.exists_cons_of_ne_nil (@Nat.toDigits_ne_nil (number / 10) 10)
      rw [Nat.toDigits_of_base_le (by decide) enough, written] at zero
      have := ih (number / 10) shorter (by rw [written]; exact zero)
      omega

theorem not_hasLeadingZero_ofNat (number : Nat) :
    hasLeadingZero (Word.ofNat number).letters = false := by
  by_cases zero : (Word.ofNat number).letters.head? = some '0'
  · rw [eq_zero_of_head?_ofNat zero]
    decide
  · rw [hasLeadingZero, beq_eq_false_iff_ne.mpr zero]
    rfl

/-- Decimal digits name no other base. -/
theorem magnitude?_ofNat (number : Nat) : magnitude? (Word.ofNat number).letters = some number := by
  have digits := @isDigit_of_mem_ofNat number
  have read := Text.number?_toDigits (by decide : 1 < 10) (by decide) number
  have noZero := not_hasLeadingZero_ofNat number
  rw [← letters_ofNat] at read
  generalize (Word.ofNat number).letters = text at digits read noZero
  unfold magnitude?
  -- another base would have a letter as its second character
  split
  · exact absurd (@digits 'x' (by simp)) (by decide)
  · exact absurd (@digits 'o' (by simp)) (by decide)
  · exact absurd (@digits 'b' (by simp)) (by decide)
  · rw [noZero, if_neg Bool.false_ne_true, read]

theorem natural?_ofNat (fits : number < 2 ^ wordBits) :
    natural? (Word.ofNat number).letters = some number := by
  have digits := @isDigit_of_mem_ofNat number
  have magnitude := magnitude?_ofNat number
  generalize (Word.ofNat number).letters = text at digits magnitude
  unfold natural?
  split
  · exact absurd (@digits '+' (by simp)) (by decide)
  · simp only [magnitude]
    exact Option.filter_some_pos (decide_eq_true fits)

/-- No number is a way to write nothing. -/
theorem not_isNull_ofNat (number : Nat) : isNull (Word.ofNat number).letters = false := by
  have starts : ∀ text ∈ ["null", "Null", "NULL", "~"],
      ∃ c rest, text = String.ofList (c :: rest) ∧ c.isDigit = false := by
    simp only [List.forall_mem_cons]
    exact ⟨⟨'n', ['u', 'l', 'l'], rfl, rfl⟩, ⟨'N', ['u', 'l', 'l'], rfl, rfl⟩,
      ⟨'N', ['U', 'L', 'L'], rfl, rfl⟩, ⟨'~', [], rfl, rfl⟩, nofun⟩
  rw [isNull, ← Bool.not_eq_true, List.contains_iff_mem]
  intro member
  obtain ⟨c, rest, same, other⟩ := starts _ member
  have digit : c.isDigit := isDigit_of_mem_ofNat (by
    rw [String.ofList_injective same]
    exact List.mem_cons_self)
  rw [other] at digit
  cases digit

/-! ## Scalars -/

variable {document : Document} {path : Path} {node : Node}

theorem decodeText_text {glyphs : List Glyph} (isNode : (Outline.text glyphs).IsNode node) :
    decodeText document path node = .ok (String.ofList (glyphs.map Glyph.char)) := by
  obtain ⟨place, rfl⟩ := isNode
  rfl

theorem decodeBoolean_word {word : Word} {value : Bool} (isNode : (Outline.word word).IsNode node)
    (written : boolean? word.letters = some value) :
    decodeBoolean document path node = .ok value := by
  obtain ⟨place, rfl⟩ := isNode
  simp [decodeBoolean, decodeScalar, Document.follow, Scalar.converts, written]

theorem decodeNatural_ofNat {wanted : String} (isNode : (Outline.word (.ofNat number)).IsNode node)
    (fits : number < 2 ^ wordBits) : decodeNatural wanted document path node = .ok number := by
  obtain ⟨place, rfl⟩ := isNode
  simp [decodeNatural, decodeScalar, Document.follow, Scalar.converts, natural?_ofNat fits]

/-- A word is nothing if it is a way to write nothing, and something if not. -/
theorem decodeOption_word {decode : Decoder α} {word : Word}
    (isNode : (Outline.word word).IsNode node) :
    decodeOption decode document path node =
      if isNull word.letters then .ok none else (decode document path node).map some := by
  obtain ⟨place, rfl⟩ := isNode
  have untagged : Scalar.standardTag? { text := word.letters } = none := rfl
  have some : word.letters.isEmpty = false := List.isEmpty_eq_false_iff.mpr word.nonempty
  simp [decodeOption, Document.follow, untagged, some]

/-! ## Records -/

variable {δ α ι : Type} {record : Record δ α}

theorem readEntry_field {field : RecordField δ} {key : Key} {name : Node} {draft : δ}
    (isKey : key.IsNode name)
    (found : record.fields.find? (·.name == String.ofList key.letters) = some field)
    (unset : field.isSet draft = false) :
    record.readEntry document path draft (name, node) =
      field.read draft document (String.ofList key.letters :: path) node := by
  obtain ⟨place, rfl⟩ := isKey
  simp [Record.readEntry, Record.readKey, Document.follow, found, unset, bind, Except.bind]

/-- Entries that are written once each are read in any order, if each of them is read whatever
others were read before it. -/
theorem foldlM_readEntry (draftOf : List ι → δ) (key : ι → Key) (value : ι → Outline)
    (step : ∀ i done name node, i ∉ done → (key i).IsNode name → (value i).IsNode node →
      record.readEntry document path (draftOf done) (name, node) = .ok (draftOf (i :: done)))
    (order done : List ι) (distinct : (order.reverse ++ done).Nodup) {entries : List (Node × Node)}
    (areEntries : AreEntries (order.map fun i => (key i, value i)) entries) :
    entries.foldlM (record.readEntry document path) (draftOf done) =
      .ok (draftOf (order.reverse ++ done)) := by
  -- the entries read so far are at the head of `done`, the last one first
  induction order generalizing done entries with
  | nil =>
    rw [show entries = [] from areEntries]
    rfl
  | cons i order ih =>
    obtain ⟨name, node, rest, rfl, isKey, isNode, others⟩ := areEntries
    rw [List.reverse_cons, List.append_assoc, List.singleton_append] at distinct ⊢
    have fresh : i ∉ done := (List.nodup_cons.mp (List.nodup_append.mp distinct).2.1).1
    rw [List.foldlM_cons, step i done name node fresh isKey isNode]
    exact ih (i :: done) distinct others

/-- A record is taken from a mapping in which each of its entries is written once. -/
theorem decode_mapping {draftOf : List ι → δ} {key : ι → Key} {value : ι → Outline} {first : ι}
    {others : List ι} {result : α}
    (step : ∀ i done name node, i ∉ done → (key i).IsNode name → (value i).IsNode node →
      record.readEntry document path (draftOf done) (name, node) = .ok (draftOf (i :: done)))
    (blank : record.blank = draftOf []) (distinct : (first :: others).Nodup)
    (finish : ∀ done, (∀ i ∈ first :: others, i ∈ done) → record.finish (draftOf done) = .ok result)
    (isNode : (Outline.mapping (key first) (value first)
      (others.map fun i => (key i, value i))).IsNode node) :
    record.decode document path node = .ok result := by
  obtain ⟨place, name, node, rest, rfl, isKey, isNode, areEntries⟩ := isNode
  have entries :
      AreEntries ((first :: others).map fun i => (key i, value i)) ((name, node) :: rest) :=
    ⟨name, node, rest, rfl, isKey, isNode, areEntries⟩
  have distinct : ((first :: others).reverse ++ []).Nodup := by
    rwa [List.append_nil, (List.reverse_perm _).nodup_iff]
  have read := foldlM_readEntry draftOf key value step (first :: others) [] distinct entries
  have finished := finish ((first :: others).reverse ++ [])
    fun i member => List.mem_append_left _ (List.mem_reverse.mpr member)
  generalize (first :: others).reverse ++ [] = done at read finished
  rw [← blank] at read
  simp [Record.decode, Document.follow, Record.readEntries, read, finished, bind, Except.bind, pure,
    Except.pure, Except.mapError]

end Seedbed.Yaml

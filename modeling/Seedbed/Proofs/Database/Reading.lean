import Seedbed.Database.Insertion
import Seedbed.Database.Server
import Seedbed.Proofs.Text.Number

/-!
# Reading insertions

What a server makes of the text of an insertion: the names in the first pair of brackets are the
columns, those in the second the numbers of parameters, and both lists go together place by place.
An insertion of plain names is read from its text (`ofText?_text`), so a row that is kept with it
has a value for every column, and if the columns take the parameters in order, these are its values
(`Row.cells?_inOrder`).
-/

namespace Seedbed.Text

/-! ## Words between separators -/

theorem isSeparator_iff {c : Char} : isSeparator c ↔ c = ' ' ∨ c = '\n' := by
  simp [isSeparator]

/-- A word is as long as there is no separator. -/
theorem wordsFrom_word {word : List Char} (whole : ∀ c ∈ word, ¬ isSeparator c)
    (pending rest : List Char) :
    wordsFrom pending (word ++ rest) = wordsFrom (word.reverse ++ pending) rest := by
  induction word generalizing pending with
  | nil => rfl
  | cons c word ih =>
    obtain ⟨first, others⟩ := List.forall_mem_cons.mp whole
    rw [List.cons_append, wordsFrom, if_neg first, ih others, List.reverse_cons, List.append_assoc,
      List.singleton_append]

theorem wordsFrom_space {word : List Char} (whole : ∀ c ∈ word, ¬ isSeparator c)
    (nonempty : word ≠ []) (rest : List Char) :
    wordsFrom [] (word ++ ' ' :: rest) = word :: wordsFrom [] rest := by
  have some : word.reverse.isEmpty = false := by simpa using nonempty
  rw [wordsFrom_word whole, List.append_nil, wordsFrom, if_pos (by decide), some,
    if_neg Bool.false_ne_true, List.reverse_reverse]

end Seedbed.Text

namespace Seedbed.Database

open Text

namespace Insertion

/-! ## The texts of insertions -/

/-- The parts of a list, all but the last of which end in commas. -/
def unlisted? : List (List Char) → Option (List (List Char))
  | [] => some []
  | [last] => some [last]
  | part :: others =>
    if part.getLast? = some ',' then (unlisted? others).map (part.dropLast :: ·) else none

/-- The words in brackets, and those after them. -/
def enclosed? : List (List Char) → Option (List (List Char) × List (List Char))
  | ['('] :: rest =>
    match rest.dropWhile (· ≠ [')']) with
    | [] => none
    | _ :: after => some (rest.takeWhile (· ≠ [')']), after)
  | _ => none

/-- The number of the parameter that a word stands for. -/
def placeholder? : List Char → Option Nat
  | '$' :: digits => number? 10 digits
  | _ => none

/-- The insertion that some words stand for. -/
def ofWords? : List (List Char) → Option Insertion
  | ['I', 'N', 'S', 'E', 'R', 'T'] :: ['I', 'N', 'T', 'O'] :: table :: rest => do
    let (columns, rest) ← enclosed? rest
    let ['V', 'A', 'L', 'U', 'E', 'S'] :: rest := rest | none
    let (numbers, []) ← enclosed? rest | none
    return {
      table := String.ofList table
      columns := (← unlisted? columns).map String.ofList
      placeholders := ← (← unlisted? numbers).mapM placeholder? }
  | _ => none

/-- The insertion that a text stands for. -/
def ofText? (text : String) : Option Insertion := ofWords? (words text)

/-! ## Lists -/

/-- Whether some characters are neither separated nor set off by a comma or a bracket. -/
structure IsPart (part : List Char) : Prop where
  nonempty : part ≠ []
  whole : ∀ c ∈ part, ¬ isSeparator c
  unmarked : ',' ∉ part
  unclosed : ')' ∉ part

/-- Some parts, all but the last of which are marked with commas. -/
def marked : List (List Char) → List (List Char)
  | [] => []
  | [last] => [last]
  | part :: others => (part ++ [',']) :: marked others

theorem wordsFrom_listed {parts : List (List Char)} (each : ∀ part ∈ parts, IsPart part)
    (rest : List Char) :
    wordsFrom [] ([',', ' '].intercalate parts ++ ' ' :: rest) =
      marked parts ++ wordsFrom [] rest := by
  induction parts with
  | nil => rfl
  | cons part others ih =>
    obtain ⟨first, later⟩ := List.forall_mem_cons.mp each
    cases others with
    | nil =>
      rw [List.intercalate_singleton]
      exact wordsFrom_space first.whole first.nonempty rest
    | cons next others =>
      have whole : ∀ c ∈ part ++ [','], ¬ isSeparator c :=
        List.forall_mem_append.mpr ⟨first.whole, List.forall_mem_singleton.mpr (by decide)⟩
      have nonempty : part ++ [','] ≠ [] := by simp
      have split : [',', ' '].intercalate (part :: next :: others) ++ ' ' :: rest =
          (part ++ [',']) ++ ' ' :: ([',', ' '].intercalate (next :: others) ++ ' ' :: rest) := by
        rw [List.intercalate_cons_cons]
        simp
      rw [split, wordsFrom_space whole nonempty, ih later]
      rfl

theorem unlisted?_marked {parts : List (List Char)} (each : ∀ part ∈ parts, IsPart part) :
    unlisted? (marked parts) = some parts := by
  induction parts with
  | nil => rfl
  | cons part others ih =>
    cases others with
    | nil => rfl
    | cons next others =>
      have read := ih (List.forall_mem_cons.mp each).2
      cases more : marked (next :: others) with
      | nil => cases others <;> cases more
      | cons word words =>
        rw [more] at read
        simp [marked, more, unlisted?, read]

theorem not_closing_of_mem_marked {parts : List (List Char)} (each : ∀ part ∈ parts, IsPart part)
    {word : List Char} (member : word ∈ marked parts) : word ≠ [')'] := by
  induction parts with
  | nil => cases member
  | cons part others ih =>
    obtain ⟨first, later⟩ := List.forall_mem_cons.mp each
    cases others with
    | nil =>
      rintro rfl
      rw [← List.mem_singleton.mp member] at first
      exact first.unclosed List.mem_cons_self
    | cons next others =>
      rcases List.mem_cons.mp member with rfl | member
      · intro same
        have last := congrArg List.getLast? same
        simp at last
      · exact ih later member

theorem enclosed?_marked {parts : List (List Char)} (each : ∀ part ∈ parts, IsPart part)
    (rest : List (List Char)) :
    enclosed? (['('] :: (marked parts ++ [')'] :: rest)) = some (marked parts, rest) := by
  have inside : ∀ word ∈ marked parts, decide (word ≠ [')']) := fun word member =>
    decide_eq_true (not_closing_of_mem_marked each member)
  rw [enclosed?, List.takeWhile_append_of_pos inside, List.dropWhile_append_of_pos inside]
  simp

/-! ## Insertions that are read -/

/-- Whether a name is made of letters, digits and low lines. -/
structure IsName (name : String) : Prop where
  nonempty : name ≠ ""
  plain : ∀ c ∈ name.toList, c.isAlphanum ∨ c = '_'

/-- Whether table and columns have names that need no marks. -/
structure Plain (insertion : Insertion) : Prop where
  table : IsName insertion.table
  columns : ∀ column ∈ insertion.columns, IsName column

theorem isName_of_all {name : String} (nonempty : name ≠ "")
    (plain : name.toList.all fun c => c.isAlphanum || c == '_') : IsName name :=
  ⟨nonempty, by simpa using plain⟩

theorem IsName.isPart {name : String} (plain : IsName name) : IsPart name.toList where
  nonempty := by simpa using plain.nonempty
  whole c member separates := by
    rcases isSeparator_iff.mp separates with rfl | rfl
    · exact absurd (plain.plain _ member) (by decide)
    · exact absurd (plain.plain _ member) (by decide)
  unmarked member := absurd (plain.plain _ member) (by decide)
  unclosed member := absurd (plain.plain _ member) (by decide)

theorem isPart_placeholder (number : Nat) : IsPart ('$' :: Nat.toDigits 10 number) := by
  have marks : ∀ mark ∈ [' ', '\n', ',', ')'], mark ∉ '$' :: Nat.toDigits 10 number := by
    intro mark listed member
    rcases List.mem_cons.mp member with rfl | member
    · exact absurd listed (by decide)
    · obtain ⟨digit, small, rfl⟩ := exists_digitChar_of_mem (by decide) member
      have clear : ∀ digit < 10, Nat.digitChar digit ∉ [' ', '\n', ',', ')'] := by decide
      exact clear digit small listed
  refine ⟨List.cons_ne_nil _ _, ?_, marks ',' (by decide), marks ')' (by decide)⟩
  intro c member separates
  rcases isSeparator_iff.mp separates with rfl | rfl
  · exact marks ' ' (by decide) member
  · exact marks '\n' (by decide) member

theorem placeholder?_toDigits (number : Nat) :
    placeholder? ('$' :: Nat.toDigits 10 number) = some number :=
  number?_toDigits (by decide) (by decide) number

theorem mapM_placeholder? (numbers : List Nat) :
    (numbers.map fun number => '$' :: Nat.toDigits 10 number).mapM placeholder? = some numbers := by
  induction numbers with
  | nil => rfl
  | cons number others ih =>
    rw [List.map_cons, List.mapM_cons, placeholder?_toDigits, ih]
    rfl

theorem isPart_of_mem_columns {insertion : Insertion} (plain : insertion.Plain) :
    ∀ part ∈ insertion.columns.map String.toList, IsPart part := by
  intro part member
  obtain ⟨column, listed, rfl⟩ := List.mem_map.mp member
  exact (plain.columns column listed).isPart

theorem isPart_of_mem_placeholders (numbers : List Nat) :
    ∀ part ∈ numbers.map fun number => '$' :: Nat.toDigits 10 number, IsPart part := by
  intro part member
  obtain ⟨number, -, rfl⟩ := List.mem_map.mp member
  exact isPart_placeholder number

/-- The words of an insertion. -/
theorem words_text {insertion : Insertion} (plain : insertion.Plain) :
    words insertion.text =
      ['I', 'N', 'S', 'E', 'R', 'T'] :: ['I', 'N', 'T', 'O'] :: insertion.table.toList :: ['('] ::
        (marked (insertion.columns.map String.toList) ++
          [')'] :: ['V', 'A', 'L', 'U', 'E', 'S'] :: ['('] ::
            (marked (insertion.placeholders.map fun number => '$' :: Nat.toDigits 10 number) ++
              [[')']])) := by
  have letters : insertion.text.toList =
      ['I', 'N', 'S', 'E', 'R', 'T'] ++ ' ' :: (['I', 'N', 'T', 'O'] ++ ' ' ::
        (insertion.table.toList ++ ' ' :: (['('] ++ ' ' ::
          ([',', ' '].intercalate (insertion.columns.map String.toList) ++ ' ' :: ([')'] ++ ' ' ::
            (['V', 'A', 'L', 'U', 'E', 'S'] ++ ' ' :: (['('] ++ ' ' ::
              ([',', ' '].intercalate (insertion.placeholders.map fun number =>
                '$' :: Nat.toDigits 10 number) ++ ' ' :: [')'])))))))) := by
    unfold text listed
    simp [Function.comp_def]
  have insert : ∀ c ∈ ['I', 'N', 'S', 'E', 'R', 'T'], ¬ isSeparator c := by simp [isSeparator]
  have into : ∀ c ∈ ['I', 'N', 'T', 'O'], ¬ isSeparator c := by simp [isSeparator]
  have values : ∀ c ∈ ['V', 'A', 'L', 'U', 'E', 'S'], ¬ isSeparator c := by simp [isSeparator]
  have opening : ∀ c ∈ ['('], ¬ isSeparator c := by simp [isSeparator]
  have closing : ∀ c ∈ [')'], ¬ isSeparator c := by simp [isSeparator]
  rw [words, letters, wordsFrom_space insert (by decide), wordsFrom_space into (by decide),
    wordsFrom_space plain.table.isPart.whole plain.table.isPart.nonempty,
    wordsFrom_space opening (by decide), wordsFrom_listed (isPart_of_mem_columns plain),
    wordsFrom_space closing (by decide), wordsFrom_space values (by decide),
    wordsFrom_space opening (by decide), wordsFrom_listed (isPart_of_mem_placeholders _)]
  rfl

/-- An insertion of plain names is read from its text. -/
theorem ofText?_text {insertion : Insertion} (plain : insertion.Plain) :
    ofText? insertion.text = some insertion := by
  have columns := isPart_of_mem_columns plain
  have numbers := isPart_of_mem_placeholders insertion.placeholders
  rw [ofText?, words_text plain]
  simp only [ofWords?, enclosed?_marked columns, enclosed?_marked numbers, unlisted?_marked columns,
    unlisted?_marked numbers, mapM_placeholder?, Option.bind_eq_bind, Option.bind_some,
    List.map_map, Function.comp_def, String.ofList_toList, List.map_id']
  rfl

/-! ## Rows -/

/-- From some parameter on, each column takes the next. -/
theorem mapM_zip_range' {columns : List String} {parameters : List Parameter} {start : Nat}
    (same : parameters.length = start + columns.length) :
    (columns.zip (List.range' (start + 1) columns.length)).mapM (fun (column, number) =>
      (parameter? parameters number).map (column, ·)) =
        some (columns.zip (parameters.drop start)) := by
  induction columns generalizing start with
  | nil => rfl
  | cons column others ih =>
    rw [List.length_cons, ← Nat.add_assoc] at same
    have inRange : start < parameters.length := by omega
    have first : parameter? parameters (start + 1) = some parameters[start] :=
      List.getElem?_eq_getElem inRange
    have rest := ih (show parameters.length = start + 1 + others.length by omega)
    rw [List.length_cons, List.range'_succ, List.zip_cons_cons, List.mapM_cons, rest,
      List.drop_eq_getElem_cons inRange]
    simp only [first]
    rfl

theorem cells?_inOrder (table : String) {columns : List String} {parameters : List Parameter}
    (same : parameters.length = columns.length) :
    (inOrder table columns).cells? parameters = some (columns.zip parameters) :=
  mapM_zip_range' (show parameters.length = 0 + columns.length by omega)

end Insertion

/-- The columns of a row that a server keeps, as the text says that inserted it. -/
def Row.cells? (row : Row) : Option (List (String × Parameter)) :=
  (Insertion.ofText? row.text).bind (·.cells? row.values)

/-- Whatever is inserted in order goes to the columns in that order. -/
theorem Row.cells?_inOrder {table : String} {columns : List String} {parameters : List Parameter}
    (plain : (Insertion.inOrder table columns).Plain)
    (same : parameters.length = columns.length) :
    Row.cells? ⟨(Insertion.inOrder table columns).text, parameters⟩ =
      some (columns.zip parameters) := by
  rw [Row.cells?, Insertion.ofText?_text plain]
  exact Insertion.cells?_inOrder table same

end Seedbed.Database

import Seedbed.Proofs.Yaml.Word

/-!
# Outlines

An outline says what a block document holds: texts between double quotes, words, and mappings with
at least one entry. It is written with a line for each entry, the entries of a mapping inside
another two columns further in. The tokens that it stands for follow its shape.
-/

namespace Seedbed.Yaml

/-- A word that is short enough to be a key. -/
structure Key extends Word where
  short : letters.length ≤ keySpan

/-- What a block document says. -/
inductive Outline where
  | text (glyphs : List Glyph)
  | word (word : Word)
  | mapping (key : Key) (value : Outline) (others : List (Key × Outline))

/-! ## Writing -/

/-- How much further in an inner mapping stands. -/
def indentStep : Nat := 2

/-- An entry of a mapping at a column. -/
def entryText (column : Nat) (key : Key) (after : List Char) : List Char :=
  List.replicate column ' ' ++ (key.letters ++ ':' :: after)

mutual

/-- What stands after the colon of a key at a column, up to the end of its lines. -/
def Outline.after (column : Nat) : Outline → List Char
  | .text glyphs => ' ' :: (quoted glyphs ++ ['\n'])
  | .word word => ' ' :: (word.letters ++ ['\n'])
  | .mapping key value others =>
    '\n' :: (entryText (column + indentStep) key (value.after (column + indentStep)) ++
      linesOf (column + indentStep) others)

/-- The lines of entries at a column. -/
def linesOf (column : Nat) : List (Key × Outline) → List Char
  | [] => []
  | (key, value) :: others => entryText column key (value.after column) ++ linesOf column others

end

/-- What outlines are written with: printable characters and line feeds. -/
def IsWritten (c : Char) : Prop := isPrintable c ∨ c = '\n'

theorem isWritten_of_mem_entryText {column : Nat} {key : Key} {after : List Char}
    (written : ∀ c ∈ after, IsWritten c) : ∀ c ∈ entryText column key after, IsWritten c := by
  intro c member
  rcases List.mem_append.mp member with indent | member
  · exact .inl ((List.eq_of_mem_replicate indent) ▸ by decide)
  · rcases List.mem_append.mp member with letter | member
    · exact .inl (isPrintable_of_isWordChar (key.plain c letter))
    · rcases List.mem_cons.mp member with rfl | member
      · exact .inl (by decide)
      · exact written c member

mutual

theorem Outline.isWritten_of_mem_after : (outline : Outline) → (column : Nat) →
    ∀ c ∈ outline.after column, IsWritten c
  | .text glyphs, column, c, member => by
    simp only [Outline.after, quoted, List.mem_cons, List.mem_append, List.mem_flatMap,
      List.not_mem_nil, or_false] at member
    rcases member with rfl | (rfl | ⟨glyph, -, member⟩ | rfl) | rfl
    · exact .inl (by decide)
    · exact .inl (by decide)
    · exact .inl (Glyph.isPrintable_of_mem_written member)
    · exact .inl (by decide)
    · exact .inr rfl
  | .word word, column, c, member => by
    simp only [Outline.after, List.mem_cons, List.mem_append, List.not_mem_nil, or_false] at member
    rcases member with rfl | letter | rfl
    · exact .inl (by decide)
    · exact .inl (isPrintable_of_isWordChar (word.plain c letter))
    · exact .inr rfl
  | .mapping key value others, column, c, member => by
    rcases List.mem_cons.mp member with rfl | member
    · exact .inr rfl
    · rcases List.mem_append.mp member with first | later
      · exact isWritten_of_mem_entryText (value.isWritten_of_mem_after _) c first
      · exact isWritten_of_mem_linesOf others _ c later

theorem isWritten_of_mem_linesOf : (entries : List (Key × Outline)) → (column : Nat) →
    ∀ c ∈ linesOf column entries, IsWritten c
  | (key, value) :: others, column, c, member => by
    rcases List.mem_append.mp member with first | later
    · exact isWritten_of_mem_entryText (value.isWritten_of_mem_after _) c first
    · exact isWritten_of_mem_linesOf others _ c later

end

/-! ## Tokens -/

/-- The tokens of an entry; those after its colon are given. -/
def entryTokens (key : Key) (after : List Token.Kind) : List Token.Kind :=
  .key :: .scalar key.letters .plain :: .value :: after

mutual

/-- The tokens that an outline stands for. -/
def Outline.tokens : Outline → List Token.Kind
  | .text glyphs => [.scalar (glyphs.map Glyph.char) .quoted]
  | .word word => [.scalar word.letters .plain]
  | .mapping key value others =>
    .blockMappingStart :: (entryTokens key value.tokens ++ (tokensOf others ++ [.blockEnd]))

def tokensOf : List (Key × Outline) → List Token.Kind
  | [] => []
  | (key, value) :: others => entryTokens key value.tokens ++ tokensOf others

end

end Seedbed.Yaml

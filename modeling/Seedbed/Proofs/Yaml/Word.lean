import Seedbed.Proofs.Yaml.Glyph
import Seedbed.Yaml.Tokens

/-!
# Words

A word is written as it is, as a key or as a value. It is read as a plain scalar, which the colon
after it ends, or the end of its line. In the second case the scalar might go on in the next line,
so the indentation of that line is read with it; that it is not far enough in ends the scalar.
-/

namespace Seedbed.Yaml

/-! ## Characters of words -/

/-- An ASCII letter or digit, or an underscore. -/
def isWordChar (c : Char) : Bool := c.isAlphanum || c == '_'

/-- A run of letters, digits and underscores. -/
structure Word where
  letters : List Char
  nonempty : letters ≠ []
  plain : ∀ c ∈ letters, isWordChar c

theorem Word.exists_cons (word : Word) :
    ∃ c others, word.letters = c :: others ∧ isWordChar c := by
  obtain ⟨c, others, letters⟩ := List.exists_cons_of_ne_nil word.nonempty
  exact ⟨c, others, letters, word.plain c (by rw [letters]; exact List.mem_cons_self)⟩

variable {c d : Char} {start place : Place} {word rest tail : List Char}

theorem beq_eq_false_of_isWordChar (wordChar : isWordChar c) (other : isWordChar d = false) :
    (c == d) = false := by
  rw [beq_eq_false_iff_ne]
  rintro rfl
  rw [other] at wordChar
  cases wordChar

theorem not_isBlank_of_isWordChar (wordChar : isWordChar c) : isBlank c = false := by
  simp (disch := first | assumption | decide) [isBlank, beq_eq_false_of_isWordChar]

theorem not_isBreak_of_isWordChar (wordChar : isWordChar c) : isBreak c = false := by
  simp (disch := first | assumption | decide) only [isBreak, beq_eq_false_of_isWordChar,
    Bool.or_false]

theorem ascii_of_isWordChar (wordChar : isWordChar c) : c.toNat < 128 := by
  simp only [isWordChar, Bool.or_eq_true, beq_iff_eq] at wordChar
  rcases wordChar with alphanum | rfl
  · exact Text.ascii_of_isAlphanum alphanum
  · decide

theorem isPrintable_of_isWordChar (wordChar : isWordChar c) : isPrintable c := by
  have all : ∀ n < 128, isWordChar (Char.ofNat n) → isPrintable (Char.ofNat n) := by decide
  have ascii := ascii_of_isWordChar wordChar
  rw [← Char.ofNat_toNat c] at wordChar ⊢
  exact all _ ascii wordChar

theorem utf8Size_of_isWordChar (wordChar : isWordChar c) : c.utf8Size = 1 :=
  Char.utf8Size_eq_one_iff.mpr
    (UInt32.le_iff_toNat_le.mpr (Nat.le_of_lt_succ (ascii_of_isWordChar wordChar)))

/-! ## Reading a word -/

/-- The place so many characters of a word further on. -/
def Place.along (place : Place) (count : Nat) : Place :=
  { place with index := place.index + count, column := place.column + count }

/-- Whether a word ends before a text. -/
def EndsWord (text : List Char) : Prop := ∀ place, endsWord false ⟨text, place⟩

theorem endsWord_eq_false (wordChar : isWordChar c) :
    endsWord false ⟨c :: rest, place⟩ = false := by
  simp (disch := first | assumption | decide) only [endsWord, Cursor.peek_zero, isBlankOrEnd,
    isBreakOrEnd, not_isBlank_of_isWordChar, not_isBreak_of_isWordChar,
    beq_eq_false_of_isWordChar, Bool.or_false, Bool.false_and]

/-- A word is read up to its end, within its line. -/
theorem readWord_word {text : List Char} {stop : Place} (plain : ∀ c ∈ word, isWordChar c)
    (ends : EndsWord rest) :
    ∃ stop', readWord false start { text, stop, cursor := ⟨word ++ rest, place⟩ } =
      .ok { text := word.reverse ++ text, stop := stop',
            cursor := ⟨rest, place.along word.length⟩ } := by
  induction word generalizing text stop place with
  | nil =>
    refine ⟨stop, ?_⟩
    rw [readWord]
    simp [ends place, Place.along]
  | cons c word ih =>
    obtain ⟨first, others⟩ := List.forall_mem_cons.mp plain
    obtain ⟨stop', read⟩ := @ih (place.next c) (c :: text) (place.next c) others
    have along : (place.next c).along word.length = place.along (c :: word).length := by
      simp only [Place.next, Place.along, utf8Size_of_isWordChar first, List.length_cons]
      grind
    refine ⟨stop', ?_⟩
    rw [along] at read
    rw [readWord, List.cons_append]
    simp only [Bool.false_and, Bool.false_eq_true, if_false, List.isEmpty_cons,
      endsWord_eq_false first, Bool.false_or, Cursor.peek_zero, Cursor.skip_cons]
    rw [List.reverse_cons, List.append_assoc]
    exact read

/-- No plain scalar is over where a word starts. -/
theorem goesOn_of_word (word : Word) :
    ((⟨word.letters ++ rest, place⟩ : Cursor).atDocumentMarker ||
      (⟨word.letters ++ rest, place⟩ : Cursor).peek == '#') = false := by
  obtain ⟨c, others, letters, wordChar⟩ := word.exists_cons
  rw [letters, List.cons_append]
  simp (disch := first | assumption | decide) only [Cursor.atDocumentMarker, Cursor.atMarker,
    Cursor.peek_zero, beq_eq_false_of_isWordChar, Bool.and_false, Bool.false_and, Bool.or_false]

variable {inFlow : Bool} {least : Nat} {reading read : PlainReading}

/-- A plain scalar is over after a word that no gap follows. -/
theorem readPlain_of_readWord
    (goesOn : (reading.cursor.atDocumentMarker || reading.cursor.peek == '#') = false)
    (word : readWord inFlow start reading = .ok read)
    (ends : read.cursor.rest = [] ∨ atGap read.cursor = false) :
    readPlain inFlow least start reading = .ok read := by
  rw [readPlain, goesOn, if_neg Bool.false_ne_true]
  split
  · rename_i fault
    rw [word] at fault
    cases fault
  · rename_i same
    obtain rfl := Except.ok.inj (word.symm.trans same)
    rw [dif_pos ends]

/-- A plain scalar is over before a line that is not indented far enough. -/
theorem readPlain_of_readGap {gap : Gap} {after : Cursor}
    (goesOn : (reading.cursor.atDocumentMarker || reading.cursor.peek == '#') = false)
    (word : readWord false start reading = .ok read)
    (more : ¬ (read.cursor.rest = [] ∨ atGap read.cursor = false))
    (passed : readGap (some least) start read.gap read.cursor = .ok (gap, after))
    (outside : after.place.column < least) :
    readPlain false least start reading = .ok { read with gap, cursor := after } := by
  rw [readPlain, goesOn, if_neg Bool.false_ne_true]
  split
  · rename_i fault
    rw [word] at fault
    cases fault
  · rename_i same
    obtain rfl := Except.ok.inj (word.symm.trans same)
    rw [dif_neg more]
    split
    · rename_i fault
      rw [passed] at fault
      cases fault
    · rename_i same
      obtain ⟨rfl, rfl⟩ := Prod.mk.inj (Except.ok.inj (passed.symm.trans same))
      exact if_pos (by simp [outside])

/-- A word before a colon is read as a plain scalar of its own. -/
theorem readPlain_word {stop : Place} (word : Word) (ends : EndsWord rest)
    (noGap : ∀ place, atGap ⟨rest, place⟩ = false) :
    ∃ stop', readPlain false least start { stop, cursor := ⟨word.letters ++ rest, place⟩ } =
      .ok { text := word.letters.reverse, stop := stop',
            cursor := ⟨rest, place.along word.letters.length⟩ } := by
  obtain ⟨stop', read⟩ := @readWord_word start place word.letters rest [] stop word.plain ends
  rw [List.append_nil] at read
  exact ⟨stop', readPlain_of_readWord (goesOn_of_word word) read (.inr (noGap _))⟩

/-! ## Indentation -/

/-- How many spaces a text starts with. -/
def indentOf (text : List Char) : Nat := (text.takeWhile (· == ' ')).length

/-- A text without the spaces it starts with. -/
def unindented (text : List Char) : List Char := text.dropWhile (· == ' ')

/-- Whether a text is empty or goes on with a line that has a word after its indentation. -/
def StartsLine (text : List Char) : Prop := ∀ c, (unindented text).head? = some c → isWordChar c

/-- After a line break the indentation of a line is passed over. -/
theorem readGap_indent {gap : Gap} (broken : gap.broken = true) (line : StartsLine tail) :
    ∃ after : Place, after.column = place.column + indentOf tail ∧
      readGap (some least) start gap ⟨tail, place⟩ = .ok (gap, ⟨unindented tail, after⟩) := by
  induction tail generalizing place with
  | nil => exact ⟨place, rfl, by rw [readGap]; rfl⟩
  | cons c tail ih =>
    by_cases space : c = ' '
    · subst space
      obtain ⟨after, column, read⟩ := @ih (place.next ' ') line
      refine ⟨after, ?_, ?_⟩
      · simp only [column, Place.next, indentOf, List.takeWhile_cons, beq_self_eq_true, if_true,
          List.length_cons]
        omega
      · have blank : isBlank ' ' = true ∧ (' ' == '\t') = false := by decide
        rw [readGap]
        simp only [List.isEmpty_cons, Bool.false_eq_true, if_false, Cursor.peek_zero, blank,
          if_true, Bool.and_false, Bool.false_and, Gap.addBlank, broken, Cursor.skip_cons]
        rw [read]
        simp [unindented]
    · have wordChar : isWordChar c := line c (by simp [unindented, space])
      refine ⟨place, ?_, ?_⟩
      · simp [indentOf, space]
      · rw [readGap_end (not_isBlank_of_isWordChar wordChar) (not_isBreak_of_isWordChar wordChar)]
        simp [unindented, space]

theorem readGap_line (line : StartsLine tail) :
    ∃ (after : Place) (gap : Gap), gap.broken ∧ after.column = indentOf tail ∧
      readGap (some least) start {} ⟨'\n' :: tail, place⟩ =
        .ok (gap, ⟨unindented tail, after⟩) := by
  obtain ⟨after, column, passed⟩ :=
    @readGap_indent start (place.nextLine ['\n']) tail least (Gap.addBreak {} '\n') rfl line
  refine ⟨after, Gap.addBreak {} '\n', rfl, column.trans (Nat.zero_add _), ?_⟩
  have notBlank : isBlank '\n' = false := by decide
  rw [readGap]
  simp only [List.isEmpty_cons, Bool.false_eq_true, if_false, Cursor.peek_zero, notBlank]
  split
  · rename_i broken
    obtain ⟨rfl, rfl⟩ := Prod.mk.inj (Option.some.inj (Cursor.lineBreak?_feed.symm.trans broken))
    exact passed
  · rename_i unbroken
    cases Cursor.lineBreak?_feed.symm.trans unbroken

/-- A word at the end of its line is read together with the indentation of the next line. -/
theorem readPlain_line (word : Word) {stop : Place} (line : StartsLine tail)
    (outside : indentOf tail < least) :
    ∃ (stop' after : Place) (gap : Gap), gap.broken ∧ after.column = indentOf tail ∧
      readPlain false least start { stop, cursor := ⟨word.letters ++ '\n' :: tail, place⟩ } =
        .ok { text := word.letters.reverse, gap, stop := stop',
              cursor := ⟨unindented tail, after⟩ } := by
  have ends : EndsWord ('\n' :: tail) := fun place => rfl
  obtain ⟨stop', read⟩ :=
    @readWord_word start place word.letters ('\n' :: tail) [] stop word.plain ends
  rw [List.append_nil] at read
  obtain ⟨after, gap, broken, column, passed⟩ :=
    @readGap_line start (place.along word.letters.length) tail least line
  have more : ¬ ('\n' :: tail = [] ∨
      atGap ⟨'\n' :: tail, place.along word.letters.length⟩ = false) := by
    rintro (empty | noGap)
    · cases empty
    · exact absurd noGap (by simp [atGap, isBreak])
  have outside' : after.column < least := by rwa [column]
  exact ⟨stop', after, gap, broken, column, @readPlain_of_readGap start least
    { stop, cursor := ⟨word.letters ++ '\n' :: tail, place⟩ }
    { text := word.letters.reverse, stop := stop',
      cursor := ⟨'\n' :: tail, place.along word.letters.length⟩ }
    gap ⟨unindented tail, after⟩ (goesOn_of_word word) read more passed outside'⟩

end Seedbed.Yaml

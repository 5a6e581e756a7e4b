import Mathlib.Data.List.TakeDrop
import Mathlib.Data.List.TakeWhile
import Seedbed.Proofs.Yaml.Outline
import Seedbed.Yaml.Document

/-!
# Scanning outlines

The tokens of a written outline, one line at a time. A mapping ends where a line stands further
out, so its end is read with the key of that line: after each value some ends are still owed, one
for each column that is open too far in (`ReadsTo`).
-/

namespace Seedbed.Yaml

variable {c : Char} {place : Place} {rest text tail : List Char} {columns : List Nat}
  {layout next : Layout}

/-! ## Steps -/

/-- Reading goes on from one layout to another over tokens of some kinds. No more tokens are read
than characters are passed over, so there is fuel for all of them. -/
def Reads (layout : Layout) (kinds : List Token.Kind) (next : Layout) : Prop :=
  ∃ count tokens, tokens.map Token.kind = kinds ∧
    count + next.cursor.rest.length ≤ layout.cursor.rest.length ∧
    ∀ fuel, TokenStream.read none (fuel + count) layout =
      (TokenStream.read none fuel next).after tokens

theorem Reads.refl (layout : Layout) : Reads layout [] layout :=
  ⟨0, [], rfl, Nat.le_of_eq (Nat.zero_add _), fun _ => rfl⟩

theorem Reads.trans {between : Layout} {kinds more : List Token.Kind}
    (first : Reads layout kinds between) (second : Reads between more next) :
    Reads layout (kinds ++ more) next := by
  obtain ⟨count, tokens, rfl, bound, read⟩ := first
  obtain ⟨count', tokens', rfl, bound', read'⟩ := second
  refine ⟨count' + count, tokens ++ tokens', List.map_append, by omega, fun fuel => ?_⟩
  rw [← Nat.add_assoc, read, read']
  simp only [TokenStream.after, List.append_assoc]

theorem Reads.step {read : Layout} (more : layout.toNext.cursor.rest ≠ [])
    (one : layout.readNext = .ok read) (fresh : read.dropStale = .ok read)
    (shorter : read.cursor.rest.length < layout.cursor.rest.length) :
    Reads layout (read.settle.1.map Token.kind) read.settle.2 := by
  refine ⟨1, read.settle.1, rfl, ?_, fun fuel => ?_⟩
  · have same : read.settle.2.cursor = read.cursor := rfl
    rw [same]
    omega
  · have unended : layout.toNext.cursor.rest.isEmpty = false := List.isEmpty_eq_false_iff.mpr more
    rw [TokenStream.read, one]
    simp only [Option.isSome_none, Bool.false_and, Bool.false_eq_true, if_false, fresh, unended]

/-! ## Between tokens -/

theorem Layout.length_toNext_le (layout : Layout) :
    layout.toNext.cursor.rest.length ≤ layout.cursor.rest.length := by
  fun_induction Layout.toNext layout with
  | case1 => exact Nat.le_refl _
  | case2 layout _ _ more _ ih =>
    exact Nat.le_trans ih (Nat.le_of_lt (Cursor.length_skip (mt List.isEmpty_iff.mpr more)))
  | case3 layout _ _ more _ _ ih =>
    exact Nat.le_trans ih (Nat.le_trans (Cursor.length_skipWhile_le _ _)
      (Nat.le_of_lt (Cursor.length_skip (mt List.isEmpty_iff.mpr more))))
  | case4 layout _ _ _ _ _ read after broken ih =>
    exact Nat.le_trans ih (Nat.le_of_lt (Cursor.length_of_lineBreak broken))
  | case5 => exact Nat.le_refl _

theorem Layout.toNext_eq_self (cursor : layout.cursor = ⟨c :: rest, place⟩)
    (notBlank : isBlank c = false) (notBreak : isBreak c = false) (other : c ∉ ['#', '\ufeff']) :
    layout.toNext = layout := by
  simp only [isBlank, Bool.or_eq_false_iff] at notBlank
  simp only [List.mem_cons, List.not_mem_nil, or_false, not_or, ← ne_eq, ← beq_eq_false_iff_ne]
    at other
  rw [Layout.toNext]
  simp only [cursor, List.isEmpty_cons, Cursor.peek_zero, notBlank, other, Bool.and_false,
    Bool.or_false, Bool.false_eq_true, if_false]
  split
  · rename_i broken
    rw [cursor, Cursor.lineBreak?_eq_none notBreak] at broken
    cases broken
  · rfl

theorem other_of_isWordChar (wordChar : isWordChar c) : c ∉ ['#', '\ufeff'] := by
  simp (disch := first | assumption | decide) [← beq_eq_false_iff_ne, beq_eq_false_of_isWordChar]

theorem Layout.toNext_word (cursor : layout.cursor = ⟨text, place⟩)
    (starts : ∀ c, text.head? = some c → isWordChar c) : layout.toNext = layout := by
  cases text with
  | nil => rw [Layout.toNext, cursor]; rfl
  | cons c text =>
    have wordChar := starts c rfl
    exact Layout.toNext_eq_self cursor (not_isBlank_of_isWordChar wordChar)
      (not_isBreak_of_isWordChar wordChar) (other_of_isWordChar wordChar)

/-- The spaces before a line's first word are passed over. -/
theorem Layout.toNext_indent (line : StartsLine text) (settled : Nat) :
    ∃ after : Place, after.column = place.column + indentOf text ∧
      ({ cursor := ⟨text, place⟩, columns, settled } : Layout).toNext =
        { cursor := ⟨unindented text, after⟩, columns, settled } := by
  induction text generalizing place with
  | nil => exact ⟨place, rfl, Layout.toNext_word rfl line⟩
  | cons c text ih =>
    by_cases space : c = ' '
    · subst space
      obtain ⟨after, column, passed⟩ := @ih (place.next ' ') line
      refine ⟨after, ?_, ?_⟩
      · simp only [column, Place.next, indentOf, List.takeWhile_cons, beq_self_eq_true, if_true,
          List.length_cons]
        omega
      · rw [Layout.toNext]
        simp only [List.isEmpty_cons, Bool.false_eq_true, if_false, Cursor.peek_zero,
          beq_self_eq_true, Bool.or_true, Bool.true_or, if_true, Cursor.skip_cons]
        rw [passed]
        simp [unindented]
    · have whole : unindented (c :: text) = c :: text := by simp [unindented, space]
      refine ⟨place, by simp [indentOf, space], ?_⟩
      rw [StartsLine, whole] at line
      rw [whole]
      exact Layout.toNext_word rfl line

theorem Layout.dropStale_eq_self {key : Option PendingKey} (keys : layout.keys = [key])
    (fresh : (key.map (·.isStale layout.place)).getD false = false) :
    layout.dropStale = .ok layout := by
  unfold Layout.dropStale
  simp [keys, fresh, pure, Except.pure, bind, Except.bind]
  rw [← keys]

/-- Without a pending key all tokens are handed on. -/
theorem Layout.settle_calm (keys : layout.keys = [none]) :
    layout.settle = (layout.waiting, { layout with
      waiting := [], settled := layout.settled + layout.waiting.length }) := by
  simp [Layout.settle, Layout.firstPending, keys, Layout.count]

/-- The columns further in are closed at a line further out. -/
theorem Layout.closeBlocks_append {key : Option PendingKey} {closed : List Nat} {column : Nat}
    (keys : layout.keys = [key]) (open' : layout.columns = closed ++ columns)
    (further : ∀ inner ∈ closed, column < inner)
    (nearer : ∀ outer ∈ columns.head?, outer ≤ column) :
    layout.closeBlocks (decide <| column < ·) = { layout with
      columns
      waiting := layout.waiting ++ closed.map fun _ => .between .blockEnd layout.place } := by
  have inFlow : layout.inFlow = false := by simp [Layout.inFlow, keys]
  have stays : columns.takeWhile (decide <| column < ·) = [] ∧
      columns.dropWhile (decide <| column < ·) = columns := by
    cases columns with
    | nil => exact ⟨rfl, rfl⟩
    | cons outer columns =>
      have nearer := nearer outer rfl
      simp [nearer]
  have further : ∀ inner ∈ closed, decide (column < inner) = true := by simpa using further
  rw [Layout.closeBlocks, inFlow, open', List.takeWhile_append_of_pos further,
    List.dropWhile_append_of_pos further, stays.1, stays.2, List.append_nil]
  rfl

theorem Layout.readNext_eq {start : Layout} (line : layout.toNext = start)
    (fresh : start.dropStale = .ok start) :
    layout.readNext = (start.closeBlocks (decide <| start.place.column < ·)).readToken := by
  rw [Layout.readNext, line, fresh]
  rfl

/-! ## Keys -/

theorem contains_eq_false_of_isWordChar {others : List Char} (wordChar : isWordChar c)
    (none : others.all (! isWordChar ·)) : others.contains c = false := by
  rw [← Bool.not_eq_true, List.contains_iff_mem]
  intro member
  have other := List.all_eq_true.mp none c member
  rw [wordChar] at other
  cases other

theorem Layout.readToken_word (cursor : layout.cursor = ⟨c :: rest, place⟩)
    (wordChar : isWordChar c) : layout.readToken = layout.putPlain := by
  have starts : layout.startsPlain := by
    simp (disch := first | assumption | decide) only [Layout.startsPlain, cursor, Cursor.peek_zero,
      isBlankOrEnd, isBreakOrEnd, not_isBlank_of_isWordChar, not_isBreak_of_isWordChar,
      beq_eq_false_of_isWordChar, contains_eq_false_of_isWordChar, Bool.or_false, Bool.not_false,
      Bool.true_or]
  simp (disch := first | assumption | decide) only [Layout.readToken, cursor, Cursor.atMarker,
    Cursor.peek_zero, beq_eq_false_of_isWordChar, starts, List.isEmpty_cons, Bool.and_false,
    Bool.false_and, Bool.or_false, Bool.false_eq_true, if_false, if_true]

theorem Layout.readToken_colon (cursor : layout.cursor = ⟨':' :: c :: rest, place⟩)
    (spaced : isBlankOrEnd c) : layout.readToken = layout.putValue := by
  simp [Layout.readToken, cursor, Cursor.atMarker, spaced]

theorem Layout.readToken_quote (cursor : layout.cursor = ⟨'"' :: rest, place⟩) :
    layout.readToken = layout.putQuoted '"' := by
  simp [Layout.readToken, cursor, Cursor.atMarker]

theorem endsWord_colon (spaced : isBlankOrEnd c) : EndsWord (':' :: c :: rest) := by
  intro place
  simp [endsWord, spaced]

/-- A word is read as a plain scalar that a colon may turn into a key. -/
theorem Layout.putPlain_key {settled : Nat} {waiting : List Token} (key : Key)
    (spaced : isBlankOrEnd c) :
    ∃ required stop,
      ({ cursor := ⟨key.letters ++ ':' :: c :: rest, place⟩, columns, settled, waiting } :
          Layout).putPlain =
        .ok { cursor := ⟨':' :: c :: rest, place.along key.letters.length⟩, columns
              keys := [some ⟨required, settled + waiting.length, place⟩]
              keyAllowed := false, settled
              waiting := waiting ++ [⟨.scalar key.letters .plain, place, stop⟩] } := by
  obtain ⟨stop, read⟩ := @readPlain_word place place (':' :: c :: rest)
    ((columns.head?.map (· + 1)).getD 0) place key.toWord (endsWord_colon spaced) fun _ => rfl
  refine ⟨columns.head? == some place.column, stop, ?_⟩
  simp [Layout.putPlain, Layout.saveKey, Layout.dropKey, Layout.giveUp, Layout.inFlow, Layout.count,
    Layout.place, Layout.put, read, bind, Except.bind, pure, Except.pure]

theorem Key.fresh (key : Key) (required : Bool) (number : Nat) :
    (⟨required, number, place⟩ : PendingKey).isStale (place.along key.letters.length) = false := by
  have short := key.short
  simp [PendingKey.isStale, Place.along]
  omega

/-- The layout between a key and its colon. -/
def Layout.beforeColon (columns : List Nat) (required : Bool) (settled : Nat) (key : Key)
    (place stop : Place) (text : List Char) : Layout where
  cursor := ⟨':' :: text, place.along key.letters.length⟩
  columns
  keys := [some ⟨required, settled, place⟩]
  keyAllowed := false
  settled
  waiting := [⟨.scalar key.letters .plain, place, stop⟩]

variable {closed outer : List Nat} {column settled : Nat} {required : Bool} {key : Key}
  {stop : Place}

/-- A key is read, with the ends of the mappings further in. -/
theorem reads_key
    (line : layout.toNext = { cursor := ⟨key.letters ++ ':' :: c :: rest, place⟩
                              columns := closed ++ columns, settled })
    (further : ∀ inner ∈ closed, place.column < inner)
    (nearer : ∀ outer ∈ columns.head?, outer ≤ place.column) (spaced : isBlankOrEnd c) :
    ∃ required settled stop, Reads layout (List.replicate closed.length .blockEnd)
      (.beforeColon columns required settled key place stop (c :: rest)) := by
  obtain ⟨first, others, letters, wordChar⟩ := key.exists_cons
  obtain ⟨required, stop, put⟩ := @Layout.putPlain_key c place rest columns settled
    (closed.map fun _ => .between .blockEnd place) key spaced
  have cursor : key.letters ++ ':' :: c :: rest = first :: (others ++ ':' :: c :: rest) := by
    rw [letters]; rfl
  have one := (Layout.readNext_eq line (Layout.dropStale_eq_self rfl rfl)).trans
    ((congrArg Layout.readToken (Layout.closeBlocks_append rfl rfl further nearer)).trans
      ((Layout.readToken_word (by rw [cursor]) wordChar).trans put))
  refine ⟨required, settled + closed.length, stop, ?_⟩
  -- the ends are handed on at once; the word waits, since a colon may still make it a key
  have step := Reads.step (by rw [line, cursor]; exact List.cons_ne_nil _ _) one
    (Layout.dropStale_eq_self rfl (key.fresh _ _)) ?_
  · simpa [Layout.settle, Layout.firstPending, Layout.count, Layout.beforeColon,
      Function.comp_def, Token.between, List.map_const'] using step
  · have shorter := layout.length_toNext_le
    rw [line, cursor] at shorter
    simp only [List.length_cons, List.length_append] at shorter ⊢
    omega

/-- The tokens of a key and the colon after it. -/
def Key.marks (key : Key) (place stop : Place) : List Token :=
  [.between .key place, ⟨.scalar key.letters .plain, place, stop⟩,
    ⟨.value, place.along key.letters.length, (place.along key.letters.length).next ':'⟩]

/-- The layout right after a key's colon. -/
def Layout.afterColon (columns : List Nat) (settled : Nat) (key : Key) (place : Place)
    (text : List Char) (waiting : List Token) : Layout where
  cursor := ⟨text, (place.along key.letters.length).next ':'⟩
  columns
  keyAllowed := false
  settled
  waiting

/-- The colon of a later key of a mapping. -/
theorem Layout.putValue_same :
    (Layout.beforeColon (place.column :: outer) required settled key place stop text).putValue =
      .ok (.afterColon (place.column :: outer) settled key place text (key.marks place stop)) := by
  simp [Layout.putValue, Layout.beforeColon, Layout.afterColon, Key.marks, Layout.putAt,
    Layout.openBlock, Layout.inFlow, Layout.isDeeper, Layout.putMark, Layout.put, Cursor.skips,
    Nat.repeat, Cursor.skip_cons, Layout.place, pure, Except.pure]

/-- The colon of a mapping's first key opens the mapping before the key. -/
theorem Layout.putValue_deeper (deeper : ∀ outer ∈ columns.head?, outer < place.column) :
    (Layout.beforeColon columns required settled key place stop text).putValue =
      .ok (.afterColon (place.column :: columns) settled key place text
        (.between .blockMappingStart place :: key.marks place stop)) := by
  have isDeeper : (columns.head?.map (decide <| · < place.column)).getD true = true := by
    cases columns with
    | nil => rfl
    | cons outer columns => simpa using deeper outer rfl
  simp [Layout.putValue, Layout.beforeColon, Layout.afterColon, Key.marks, Layout.putAt,
    Layout.openBlock, Layout.inFlow, Layout.isDeeper, isDeeper, Layout.putMark, Layout.put,
    Cursor.skips, Nat.repeat, Cursor.skip_cons, Layout.place, pure, Except.pure]

/-- A layout after the colon of a key, where a value is still to come. -/
def Layout.Awaits (layout : Layout) (column : Nat) (outer : List Nat) (text : List Char) : Prop :=
  ∃ place settled, column < place.column ∧ layout =
    { cursor := ⟨text, place⟩, columns := column :: outer, keyAllowed := false, settled }

theorem reads_colon {waiting : List Token}
    (nearer : ∀ outer ∈ columns.head?, outer ≤ place.column) (spaced : isBlankOrEnd c)
    (put : (Layout.beforeColon columns required settled key place stop (c :: rest)).putValue =
      .ok (.afterColon (place.column :: outer) settled key place (c :: rest) waiting)) :
    ∃ next, Reads (Layout.beforeColon columns required settled key place stop (c :: rest))
      (waiting.map Token.kind) next ∧ next.Awaits place.column outer (c :: rest) := by
  have stays : Layout.toNext (.beforeColon columns required settled key place stop (c :: rest)) =
      .beforeColon columns required settled key place stop (c :: rest) :=
    Layout.toNext_eq_self rfl (by decide) (by decide) (by decide)
  -- the colon stands further in than its key, so no mapping ends between them
  have nearer : ∀ outer ∈ columns.head?, outer ≤ (place.along key.letters.length).column :=
    fun outer member => Nat.le_trans (nearer outer member) (Nat.le_add_right _ _)
  have calm : (Layout.beforeColon columns required settled key place stop (c :: rest)).closeBlocks
      (decide <| (place.along key.letters.length).column < ·) =
        .beforeColon columns required settled key place stop (c :: rest) := by
    rw [Layout.closeBlocks_append rfl (List.nil_append columns).symm
      (fun _ member => absurd member List.not_mem_nil) nearer]
    rfl
  have one := (Layout.readNext_eq stays (Layout.dropStale_eq_self rfl (key.fresh _ _))).trans
    ((congrArg Layout.readToken calm).trans ((Layout.readToken_colon rfl spaced).trans put))
  have step := Reads.step (by rw [stays]; exact List.cons_ne_nil _ _) one
    (Layout.dropStale_eq_self rfl rfl) (Nat.lt_succ_self _)
  rw [Layout.settle_calm rfl] at step
  exact ⟨_, step, _, _, Nat.lt_succ_of_le (Nat.le_add_right _ _), rfl⟩

/-- A layout before a line, whose words come next wherever it is indented. -/
def Layout.AtLine (layout : Layout) (columns : List Nat) (text : List Char) : Prop :=
  ∃ place settled, place.column = indentOf text ∧
    layout.toNext = { cursor := ⟨unindented text, place⟩, columns, settled }

theorem Key.letters_ne_space (key : Key) :
    (key.letters ++ rest).takeWhile (· == ' ') = [] ∧
      (key.letters ++ rest).dropWhile (· == ' ') = key.letters ++ rest := by
  obtain ⟨first, others, letters, wordChar⟩ := key.exists_cons
  have notSpace : (first == ' ') = false := beq_eq_false_of_isWordChar wordChar (by decide)
  rw [letters, List.cons_append, List.takeWhile_cons, List.dropWhile_cons, notSpace]
  exact ⟨rfl, rfl⟩

theorem indentOf_entryText (column : Nat) (key : Key) :
    indentOf (entryText column key text) = column := by
  rw [indentOf, entryText, List.takeWhile_append_of_pos (by simp), key.letters_ne_space.1,
    List.append_nil, List.length_replicate]

theorem unindented_entryText (column : Nat) (key : Key) :
    unindented (entryText column key text) = key.letters ++ ':' :: text := by
  rw [unindented, entryText, List.dropWhile_append_of_pos (by simp), key.letters_ne_space.2]

theorem startsLine_entryText (column : Nat) (key : Key) :
    StartsLine (entryText column key text) := by
  intro c head
  obtain ⟨first, others, letters, wordChar⟩ := key.exists_cons
  rw [unindented_entryText, letters] at head
  rwa [← Option.some.inj head]

/-- What stands after a colon starts with a space or a line feed. -/
theorem Outline.after_eq_cons (outline : Outline) (column : Nat) :
    ∃ c rest, outline.after column = c :: rest ∧ isBlankOrEnd c := by
  cases outline <;> exact ⟨_, _, rfl, by decide⟩

variable {value : Outline}

/-- The key of an entry is read that comes after others of its mapping. -/
theorem reads_entry
    (line : layout.AtLine (closed ++ column :: outer)
      (entryText column key (value.after column ++ rest)))
    (further : ∀ inner ∈ closed, column < inner) :
    ∃ next, Reads layout (List.replicate closed.length .blockEnd ++ entryTokens key []) next ∧
      next.Awaits column outer (value.after column ++ rest) := by
  obtain ⟨place, settled, same, start⟩ := line
  rw [indentOf_entryText] at same
  rw [unindented_entryText] at start
  subst same
  obtain ⟨c, others, after, spaced⟩ := value.after_eq_cons place.column
  rw [after, List.cons_append] at start ⊢
  have nearer : ∀ other ∈ (place.column :: outer).head?, other ≤ place.column :=
    fun _ member => Nat.le_of_eq (Option.some.inj member).symm
  obtain ⟨required, settled, stop, read⟩ := reads_key start further nearer spaced
  obtain ⟨next, read', awaits⟩ := reads_colon nearer spaced Layout.putValue_same
  exact ⟨next, read.trans read', awaits⟩

/-- The key of a mapping's first entry is read. -/
theorem reads_first
    (line : layout.AtLine columns (entryText column key (value.after column ++ rest)))
    (deeper : ∀ outer ∈ columns.head?, outer < column) :
    ∃ next, Reads layout (.blockMappingStart :: entryTokens key []) next ∧
      next.Awaits column columns (value.after column ++ rest) := by
  obtain ⟨place, settled, same, start⟩ := line
  rw [indentOf_entryText] at same
  rw [unindented_entryText] at start
  subst same
  obtain ⟨c, others, after, spaced⟩ := value.after_eq_cons place.column
  rw [after, List.cons_append] at start ⊢
  have nearer : ∀ other ∈ columns.head?, other ≤ place.column :=
    fun other member => Nat.le_of_lt (deeper other member)
  obtain ⟨required, settled, stop, read⟩ :=
    reads_key start (fun _ member => absurd member List.not_mem_nil) nearer spaced
  obtain ⟨next, read', awaits⟩ := reads_colon nearer spaced (Layout.putValue_deeper deeper)
  exact ⟨next, read.trans read', awaits⟩

/-! ## Values -/

theorem Layout.atLine_feed (line : StartsLine text) (settled : Nat) :
    ({ cursor := ⟨'\n' :: text, place⟩, columns, keyAllowed := false, settled } : Layout).AtLine
      columns text := by
  obtain ⟨after, same, passed⟩ :=
    @Layout.toNext_indent (place.nextLine ['\n']) text columns line settled
  refine ⟨after, settled, same.trans (Nat.zero_add _), ?_⟩
  have plain : ('\n' == '\ufeff') = false ∧ ('\n' == ' ') = false ∧ ('\n' == '\t') = false ∧
      ('\n' == '#') = false := by decide
  rw [Layout.toNext]
  simp only [List.isEmpty_cons, Cursor.peek_zero, plain, Bool.and_false, Bool.or_false,
    Bool.false_eq_true, if_false]
  split
  · rename_i broken
    obtain ⟨rfl, rfl⟩ := Prod.mk.inj (Option.some.inj (Cursor.lineBreak?_feed.symm.trans broken))
    exact passed
  · rename_i unbroken
    cases Cursor.lineBreak?_feed.symm.trans unbroken

theorem Layout.toNext_space (notBlank : isBlank c = false) (notBreak : isBreak c = false)
    (other : c ∉ ['#', '\ufeff']) :
    Layout.toNext
        { cursor := ⟨' ' :: c :: rest, place⟩, columns, keyAllowed := false, settled } =
      { cursor := ⟨c :: rest, place.next ' '⟩, columns, keyAllowed := false, settled } := by
  rw [Layout.toNext]
  simp only [List.isEmpty_cons, Bool.false_eq_true, if_false, Cursor.peek_zero, beq_self_eq_true,
    Bool.or_true, Bool.true_or, if_true, Cursor.skip_cons]
  exact Layout.toNext_eq_self rfl notBlank notBreak other

theorem reads_value {after : Cursor} {keyAllowed : Bool} {token : Token}
    (inside : column < place.column) (notBlank : isBlank c = false)
    (notBreak : isBreak c = false) (other : c ∉ ['#', '\ufeff'])
    (one : Layout.readToken { cursor := ⟨c :: rest, place.next ' '⟩, columns := column :: outer,
                              keyAllowed := false, settled } =
      .ok { cursor := after, columns := column :: outer, keyAllowed, settled, waiting := [token] })
    (shorter : after.rest.length ≤ rest.length) :
    Reads { cursor := ⟨' ' :: c :: rest, place⟩, columns := column :: outer, keyAllowed := false,
            settled } [token.kind]
      { cursor := after, columns := column :: outer, keyAllowed, settled := settled + 1 } := by
  have passed := @Layout.toNext_space c place rest (column :: outer) settled notBlank notBreak other
  have nearer : ∀ other ∈ (column :: outer).head?, other ≤ (place.next ' ').column :=
    fun _ member => Option.some.inj member ▸ Nat.le_succ_of_le (Nat.le_of_lt inside)
  have calm := @Layout.closeBlocks_append (column :: outer)
    { cursor := ⟨c :: rest, place.next ' '⟩, columns := column :: outer, keyAllowed := false,
      settled } none [] _ rfl rfl (fun _ member => absurd member List.not_mem_nil) nearer
  have step := Reads.step (by rw [passed]; exact List.cons_ne_nil _ _)
    ((Layout.readNext_eq passed (Layout.dropStale_eq_self rfl rfl)).trans
      ((congrArg Layout.readToken calm).trans one)) (Layout.dropStale_eq_self rfl rfl)
    (Nat.lt_succ_of_le (Nat.le_succ_of_le shorter))
  rw [Layout.settle_calm rfl] at step
  exact step

/-- A text between double quotes is read up to the end of its line. -/
theorem reads_text {glyphs : List Glyph} (line : StartsLine tail)
    (awaits : layout.Awaits column outer (' ' :: (quoted glyphs ++ '\n' :: tail))) :
    ∃ next, Reads layout [.scalar (glyphs.map Glyph.char) .quoted] next ∧
      next.AtLine (column :: outer) tail := by
  obtain ⟨place, settled, inside, rfl⟩ := awaits
  have start : quoted glyphs ++ '\n' :: tail =
      '"' :: (glyphs.flatMap Glyph.written ++ '"' :: '\n' :: tail) := by simp [quoted]
  obtain ⟨after, read⟩ := @readQuoted_quoted (place.next ' ') ((place.next ' ').next '"')
    ('\n' :: tail) glyphs (Nat.zero_lt_succ _)
  have step := @reads_value '"' place (glyphs.flatMap Glyph.written ++ '"' :: '\n' :: tail) outer
    column settled ⟨'\n' :: tail, after⟩ false
    ⟨.scalar (glyphs.map Glyph.char) .quoted, place.next ' ', after⟩
    inside (by decide) (by decide) (by decide) ?_ ?_
  · rw [start]
    exact ⟨_, step, Layout.atLine_feed line _⟩
  · rw [Layout.readToken_quote rfl]
    simp [Layout.putQuoted, Layout.saveKey, Layout.put, Layout.place, Cursor.skip_cons, read, bind,
      Except.bind, pure, Except.pure]
  · simp only [List.length_append, List.length_cons]
    omega

/-- A word is read with the end of its line and the indentation of the next. -/
theorem reads_word {word : Word} (line : StartsLine tail) (outside : indentOf tail ≤ column)
    (awaits : layout.Awaits column outer (' ' :: (word.letters ++ '\n' :: tail))) :
    ∃ next, Reads layout [.scalar word.letters .plain] next ∧
      next.AtLine (column :: outer) tail := by
  obtain ⟨place, settled, inside, rfl⟩ := awaits
  obtain ⟨first, others, letters, wordChar⟩ := word.exists_cons
  -- to see whether the word goes on, the scanner has read up to the next line's first word
  obtain ⟨stop, after, gap, broken, same, read⟩ := @readPlain_line (place.next ' ')
    (place.next ' ') tail (column + 1) word (place.next ' ') line (Nat.lt_succ_of_le outside)
  have cursor : word.letters ++ '\n' :: tail = first :: (others ++ '\n' :: tail) := by
    rw [letters]; rfl
  rw [cursor] at read ⊢
  have step := @reads_value first place (others ++ '\n' :: tail) outer column settled
    ⟨unindented tail, after⟩ true ⟨.scalar word.letters .plain, place.next ' ', stop⟩
    inside (not_isBlank_of_isWordChar wordChar) (not_isBreak_of_isWordChar wordChar) ?_ ?_ ?_
  · exact ⟨_, step, after, settled + 1, same, Layout.toNext_word rfl line⟩
  · exact other_of_isWordChar wordChar
  · rw [Layout.readToken_word rfl wordChar]
    simp [Layout.putPlain, Layout.saveKey, Layout.inFlow, Layout.put, Layout.place, read, broken,
      bind, Except.bind, pure, Except.pure]
  · have shorter : (unindented tail).length ≤ tail.length := (List.dropWhile_sublist _).length_le
    simp only [List.length_append, List.length_cons]
    omega

/-! ## Outlines -/

/-- Reading goes on to a line over some tokens, of which the ends of mappings that stand further in
than the line's own are still to come. -/
def ReadsTo (layout : Layout) (kinds : List Token.Kind) (columns : List Nat) (text : List Char) :
    Prop :=
  ∃ next closed read, Reads layout read next ∧ next.AtLine (closed ++ columns) text ∧
    (∀ inner ∈ closed, ∀ outer ∈ columns.head?, outer < inner) ∧
    read ++ List.replicate closed.length .blockEnd = kinds

theorem Reads.readsTo {kinds : List Token.Kind} (read : Reads layout kinds next)
    (line : next.AtLine columns text) : ReadsTo layout kinds columns text :=
  ⟨next, [], kinds, read, line, fun _ member => absurd member List.not_mem_nil,
    List.append_nil kinds⟩

theorem Reads.append {kinds more : List Token.Kind} (first : Reads layout kinds next)
    (second : ReadsTo next more columns text) : ReadsTo layout (kinds ++ more) columns text := by
  obtain ⟨last, closed, read, reads, line, further, rfl⟩ := second
  exact ⟨last, closed, kinds ++ read, first.trans reads, line, further, List.append_assoc ..⟩

/-- What is still to come is read with what comes after it. -/
theorem ReadsTo.append {kinds more : List Token.Kind} (first : ReadsTo layout kinds columns text)
    (second : ∀ next closed, Layout.AtLine next (closed ++ columns) text →
      (∀ inner ∈ closed, ∀ outer ∈ columns.head?, outer < inner) →
      ReadsTo next (List.replicate closed.length .blockEnd ++ more) columns tail) :
    ReadsTo layout (kinds ++ more) columns tail := by
  obtain ⟨next, closed, read, reads, line, further, rfl⟩ := first
  rw [List.append_assoc]
  exact reads.append (second next closed line further)

/-- A mapping is over at a line further out. -/
theorem ReadsTo.close {kinds : List Token.Kind}
    (first : ReadsTo layout kinds (column :: columns) text)
    (deeper : ∀ outer ∈ columns.head?, outer < column) :
    ReadsTo layout (kinds ++ [.blockEnd]) columns text := by
  obtain ⟨next, closed, read, reads, line, further, rfl⟩ := first
  refine ⟨next, closed ++ [column], read, reads, by simpa using line, ?_, ?_⟩
  · intro inner member outer first
    rcases List.mem_append.mp member with member | member
    · exact Nat.lt_trans (deeper outer first) (further inner member column rfl)
    · exact List.mem_singleton.mp member ▸ deeper outer first
  · simp [List.replicate_succ']

/-- Whether a text goes on with a line no further in than a column. -/
def Follows (column : Nat) (text : List Char) : Prop := StartsLine text ∧ indentOf text ≤ column

theorem entryText_append {after : List Char} :
    entryText column key after ++ text = entryText column key (after ++ text) := by
  simp [entryText]

theorem follows_linesOf {entries : List (Key × Outline)} (follows : Follows column tail) :
    Follows column (linesOf column entries ++ tail) := by
  cases entries with
  | nil => exact follows
  | cons entry entries =>
    rw [linesOf, List.append_assoc, entryText_append]
    exact ⟨startsLine_entryText column _, Nat.le_of_eq (indentOf_entryText column _)⟩

/-- The lines of a mapping are read if a line further out comes before them. -/
theorem reads_lines_of_first {others : List (Key × Outline)}
    (line : layout.AtLine columns (linesOf column ((key, value) :: others) ++ tail))
    (deeper : ∀ outer ∈ columns.head?, outer < column)
    (first : ∀ next, Layout.Awaits next column columns
      (value.after column ++ (linesOf column others ++ tail)) →
        ReadsTo next value.tokens (column :: columns) (linesOf column others ++ tail))
    (later : ∀ next closed,
      Layout.AtLine next (closed ++ column :: columns) (linesOf column others ++ tail) →
      (∀ inner ∈ closed, column < inner) →
      ReadsTo next (List.replicate closed.length .blockEnd ++ tokensOf others) (column :: columns)
        tail) :
    ReadsTo layout (Outline.mapping key value others).tokens columns tail := by
  rw [linesOf, List.append_assoc, entryText_append] at line
  obtain ⟨next, read, awaits⟩ := reads_first line deeper
  have all := (read.append ((first next awaits).append fun next closed line further =>
    later next closed line fun inner member => further inner member column rfl)).close deeper
  simpa [Outline.tokens, entryTokens] using all

-- Both inductions are on the shape of the outline, for any text after it: an inner mapping is
-- followed by the lines of the outer ones. What a value leaves owed is taken over by the next entry.
mutual

/-- What stands after a key's colon is read, up to the line after it. -/
theorem reads_after : (outline : Outline) → (column : Nat) → (outer : List Nat) →
    (tail : List Char) → (layout : Layout) → Follows column tail →
    layout.Awaits column outer (outline.after column ++ tail) →
    ReadsTo layout outline.tokens (column :: outer) tail
  | .text glyphs, column, outer, tail, layout, follows, awaits => by
    rw [Outline.after, List.cons_append, List.append_assoc] at awaits
    obtain ⟨next, read, line⟩ := reads_text follows.1 awaits
    exact read.readsTo line
  | .word word, column, outer, tail, layout, follows, awaits => by
    rw [Outline.after, List.cons_append, List.append_assoc] at awaits
    obtain ⟨next, read, line⟩ := reads_word follows.1 follows.2 awaits
    exact read.readsTo line
  | .mapping key value others, column, outer, tail, layout, follows, awaits => by
    have inside : column < column + indentStep := Nat.lt_add_of_pos_right (by decide)
    have follows : Follows (column + indentStep) tail :=
      ⟨follows.1, Nat.le_trans follows.2 (Nat.le_of_lt inside)⟩
    have lines := (@follows_linesOf tail (column + indentStep) ((key, value) :: others) follows).1
    obtain ⟨place, settled, -, rfl⟩ := awaits
    exact reads_lines_of_first (Layout.atLine_feed lines settled)
      (fun _ member => Option.some.inj member ▸ inside)
      (fun next => reads_after value _ _ _ next (follows_linesOf follows))
      (fun next closed => reads_linesOf others closed _ _ _ next follows)

/-- The lines of entries are read that come after others of their mapping. -/
theorem reads_linesOf : (entries : List (Key × Outline)) → (closed : List Nat) → (column : Nat) →
    (outer : List Nat) → (tail : List Char) → (layout : Layout) → Follows column tail →
    layout.AtLine (closed ++ column :: outer) (linesOf column entries ++ tail) →
    (∀ inner ∈ closed, column < inner) →
    ReadsTo layout (List.replicate closed.length .blockEnd ++ tokensOf entries) (column :: outer)
      tail
  | [], closed, column, outer, tail, layout, follows, line, further =>
    ⟨layout, closed, [], Reads.refl layout, line,
      fun inner member _ first => Option.some.inj first ▸ further inner member,
      (List.append_nil _).symm⟩
  | (key, value) :: others, closed, column, outer, tail, layout, follows, line, further => by
    rw [linesOf, List.append_assoc, entryText_append] at line
    obtain ⟨next, read, awaits⟩ := reads_entry line further
    have all := read.append
      ((reads_after value _ _ _ next (follows_linesOf follows) awaits).append
        fun next closed line further => reads_linesOf others closed _ _ _ next follows line
          fun inner member => further inner member column rfl)
    simpa [tokensOf, entryTokens] using all

end

/-- The end of the text closes all that is open. -/
theorem readEnd_eq {waiting : List Token} (first : place.column = 0) :
    ({ cursor := ⟨[], place⟩, columns, settled, waiting } : Layout).readEnd =
      .ok { cursor := ⟨[], place⟩, keyAllowed := false, settled
            waiting := waiting ++ (columns.map fun _ => .between .blockEnd place) ++
              [.between .streamEnd place] } := by
  have all : columns.takeWhile (fun _ => true) = columns ∧
      columns.dropWhile (fun _ => true) = [] := by simp
  simp [Layout.readEnd, Layout.closeBlocks, Layout.inFlow, Layout.place, first, all, Layout.dropKey,
    Layout.giveUp, Layout.put, bind, Except.bind, pure, Except.pure]

/-- The end of the text is read, and with it the ends of all mappings that are still open. -/
theorem read_end (line : layout.AtLine columns []) (fuel : Nat) :
    ∃ tokens, tokens.map Token.kind = List.replicate columns.length .blockEnd ++ [.streamEnd] ∧
      TokenStream.read none (fuel + 1) layout = { tokens } := by
  obtain ⟨place, settled, same, start⟩ := line
  let isEnd (_ : Nat) : Token := .between .blockEnd place
  let closes : Nat → Bool := (decide <| place.column < ·)
  let last : Layout :=
    { cursor := ⟨[], place⟩, keyAllowed := false, settled
      waiting := columns.map isEnd ++ [.between .streamEnd place] }
  -- the columns right of the place are closed before the end is noticed, the others because of it
  have ended : layout.readNext = .ok last := by
    have all : columns.map isEnd =
        (columns.takeWhile closes).map isEnd ++ (columns.dropWhile closes).map isEnd := by
      rw [← List.map_append, List.takeWhile_append_dropWhile]
    rw [Layout.readNext_eq start (Layout.dropStale_eq_self rfl rfl)]
    simp only [last, all]
    exact readEnd_eq same
  have fresh : last.dropStale = .ok last := Layout.dropStale_eq_self rfl rfl
  have handed : last.settle.1 = last.waiting := congrArg Prod.fst (Layout.settle_calm rfl)
  have unmore : layout.toNext.cursor.rest.isEmpty := by rw [start]; rfl
  refine ⟨last.waiting, by simp [last, isEnd, Token.between, List.map_const'], ?_⟩
  rw [TokenStream.read, ended]
  simp only [Option.isSome_none, Bool.false_and, Bool.false_eq_true, if_false, fresh, unmore,
    if_true, handed]

/-! ## Documents -/

theorem isAllowed_of_isWritten (written : IsWritten c) : isAllowed c := by
  rcases written with printable | rfl
  · rw [isPrintable] at printable
    simp [isAllowed, printable]
  · decide

theorem findControl_eq_none {room offset : Nat} {whole pending : List Char}
    (allowed : ∀ c ∈ text, isAllowed c) : findControl room offset whole pending text = none := by
  induction text generalizing room offset whole pending with
  | nil => rfl
  | cons c text ih =>
    obtain ⟨first, others⟩ := List.forall_mem_cons.mp allowed
    rw [findControl]
    simp only [first, if_true]
    exact ih others

/-- The tokens of a written mapping are those that it stands for. -/
theorem kinds_ofText (key : Key) (value : Outline) (others : List (Key × Outline)) :
    ∃ tokens, tokens.map Token.kind = (Outline.mapping key value others).tokens ++ [.streamEnd] ∧
      TokenStream.ofText (linesOf 0 ((key, value) :: others)) = { tokens } := by
  generalize written : linesOf 0 ((key, value) :: others) = text
  have allowed : ∀ c ∈ text, isAllowed c := fun c member => isAllowed_of_isWritten
    (isWritten_of_mem_linesOf ((key, value) :: others) 0 c (written ▸ member))
  have nothing : Follows 0 [] := ⟨nofun, Nat.le_refl 0⟩
  have line : Layout.AtLine { cursor := ⟨text, .start⟩ } [] text := by
    obtain ⟨place, column, passed⟩ := @Layout.toNext_indent .start text []
      (written ▸ by simpa using (@follows_linesOf [] 0 ((key, value) :: others) nothing).1) 0
    exact ⟨place, 0, by simpa [Place.start] using column, passed⟩
  have read :
      ReadsTo { cursor := ⟨text, .start⟩ } (Outline.mapping key value others).tokens [] [] :=
    reads_lines_of_first (by simpa [written] using line) nofun
      (fun next => reads_after value _ _ _ next (follows_linesOf nothing))
      (fun next closed => reads_linesOf others closed _ _ _ next nothing)
  -- what is still owed is read with the end of the text
  obtain ⟨next, closed, -, ⟨count, tokens, rfl, bound, run⟩, last, -, all⟩ := read
  obtain ⟨ends, kinds, ended⟩ := read_end last (text.length - count)
  refine ⟨tokens ++ ends, ?_, ?_⟩
  · rw [List.map_append, kinds, ← all, List.append_nil, List.append_assoc]
  · have fuel : text.length + 1 = text.length - count + 1 + count := by
      have : count + next.cursor.rest.length ≤ text.length := bound
      omega
    rw [TokenStream.ofText, findControl_eq_none allowed]
    simp only [fuel, run, ended, TokenStream.after]

end Seedbed.Yaml

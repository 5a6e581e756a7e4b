import Seedbed.Proofs.Url.Authority

/-!
# Addresses with a query

What follows the mark of a query or fragment takes no part in an address. Every state of the parser
stops at such a mark as it stops at the end of the text: each lemma says that a text with a query is
read like the text alone, and what is left of it ends in the query.

There is one exception. An authority that is nothing but an `@` is read as an empty one where the
text ends, and refused where a query follows (`ofText_append_of_dangling`).
-/

namespace Seedbed.Url

/-- The marks that start a query and a fragment. -/
def IsMark (mark : Char) : Prop := mark = '?' ∨ mark = '#'

variable {mark : Char} {kind : SchemeKind} {text query : List Char}

section
variable (isMark : IsMark mark)
include isMark

theorem IsMark.not_isSlash (kind : SchemeKind) : kind.isSlash mark = false := by
  rcases isMark with rfl | rfl <;> cases kind <;> rfl

theorem IsMark.endsAuthority (kind : SchemeKind) : endsAuthority kind mark = true := by
  rcases isMark with rfl | rfl <;> rfl

theorem IsMark.not_isSchemeChar : isSchemeChar mark = false := by
  rcases isMark with rfl | rfl <;> decide

theorem IsMark.isVisible : isVisible mark := by
  rcases isMark with rfl | rfl <;> decide

end

/-! ## Cutting -/

section
variable {p : Char → Bool} (stops : p mark = false)
include stops

theorem takeWhile_append_mark : (text ++ mark :: query).takeWhile p = text.takeWhile p := by
  induction text with
  | nil => simp [stops]
  | cons c text ih => simp [List.takeWhile_cons, ih]

theorem dropWhile_append_mark :
    (text ++ mark :: query).dropWhile p = text.dropWhile p ++ mark :: query := by
  induction text with
  | nil => simp [stops]
  | cons c text ih =>
    by_cases holds : p c
    · simp [holds, ih]
    · simp [holds]

theorem span_append_mark :
    (text ++ mark :: query).span p = ((text.span p).1, (text.span p).2 ++ mark :: query) := by
  simp only [List.span_eq_takeWhile_dropWhile, takeWhile_append_mark stops,
    dropWhile_append_mark stops]

end

/-! ## Schemes -/

/-- A scheme stands before a colon, and is written in any case. -/
theorem eq_of_splitScheme? {scheme rest : List Char}
    (split : splitScheme? text = some (scheme, rest)) :
    ∃ first name, text = first :: name ++ ':' :: rest ∧ first.isAlpha ∧
      (∀ c ∈ first :: name, isSchemeChar c) ∧ scheme = (first :: name).map Char.toLower := by
  unfold splitScheme? at split
  rw [List.span_eq_takeWhile_dropWhile] at split
  have parts := List.takeWhile_append_dropWhile (p := isSchemeChar) (l := text)
  have chars : ∀ c ∈ text.takeWhile isSchemeChar, isSchemeChar c := fun c member =>
    List.mem_takeWhile_imp member
  split at split
  · rename_i first name after cut
    simp only [Prod.mk.injEq] at cut
    obtain ⟨starts, same⟩ := Option.ite_none_right_eq_some.mp split
    obtain ⟨rfl, rfl⟩ := Prod.mk.inj (Option.some.inj same)
    rw [cut.1, cut.2] at parts
    rw [cut.1] at chars
    exact ⟨first, name, parts.symm, starts, chars, rfl⟩
  · cases split

/-! ## Plain schemes -/

theorem plainAddress_rooted {scheme : List Char} (other : text.head? ≠ some '/') :
    plainAddress scheme ('/' :: text) =
      .ok { scheme, path := appendPath .plain ['/'] (beforeQuery text) } := by
  cases text with
  | nil => rfl
  | cons c text =>
    rw [plainAddress]
    rintro rest same
    simp_all

theorem plainAddress_bare {scheme : List Char} (other : text.head? ≠ some '/') :
    plainAddress scheme text = .ok { scheme, path := opaquePath (beforeQuery text) } := by
  cases text with
  | nil => rfl
  | cons c text =>
    rw [plainAddress]
    · rintro rest same
      simp_all
    · rintro rest same
      simp_all

variable (isMark : IsMark mark)
include isMark

theorem beforeQuery_append : beforeQuery (text ++ mark :: query) = beforeQuery text :=
  takeWhile_append_mark (by rcases isMark with rfl | rfl <;> rfl)

theorem unbroken_append :
    unbroken (text ++ mark :: query) = unbroken text ++ mark :: unbroken query := by
  simp [unbroken, not_isRemoved isMark.isVisible]

/-- Blanks between a text and its query would count, so the text must not end in one. -/
theorem trimmed_append_mark (query : List Char) (ends : ∀ c, text.getLast? = some c → isVisible c) :
    ∃ rest, trimmed (text ++ mark :: query) = trimmed text ++ mark :: rest := by
  have stops := not_isTrimmed isMark.isVisible
  have whole : trimmed text = text.dropWhile isTrimmed := by
    obtain ⟨before, same⟩ := List.dropWhile_suffix (l := text) isTrimmed
    rw [trimmed, dropWhile_isTrimmed, List.reverse_reverse]
    intro c last
    refine ends c ?_
    rw [← same, List.getLast?_append, ← List.head?_reverse, last, Option.some_or]
  refine ⟨(query.reverse.dropWhile isTrimmed).reverse, ?_⟩
  rw [whole, trimmed, dropWhile_append_mark stops]
  simp [dropWhile_append_mark stops]

theorem splitScheme?_append :
    splitScheme? (text ++ mark :: query) =
      (splitScheme? text).map fun parts => (parts.1, parts.2 ++ mark :: query) := by
  unfold splitScheme?
  rw [span_append_mark isMark.not_isSchemeChar]
  obtain ⟨name, rest⟩ := text.span isSchemeChar
  have noColon : mark ≠ ':' := by rcases isMark with rfl | rfl <;> decide
  cases name with
  | nil => rfl
  | cons first name =>
    cases rest with
    | nil => simp [noColon]
    | cons c rest =>
      by_cases colon : c = ':'
      · subst colon
        simp only [List.cons_append]
        split_ifs <;> rfl
      · simp [colon]

/-! ## Authorities -/

/-- An authority that is more than an `@` is read alike before a query. Under a special scheme it
must have a host in any case. -/
theorem readAuthority_append (more : kind.isSpecial ∨ text ≠ ['@']) :
    readAuthority kind (text ++ mark :: query) =
      (readAuthority kind text).map fun read => (read.1, read.2 ++ mark :: query) := by
  have stops : (! endsAuthority kind mark) = false := by rw [isMark.endsAuthority, Bool.not_true]
  have cut' := @span_append_mark _ text query (! endsAuthority kind ·) stops
  obtain ⟨⟨inside, outside⟩, cut⟩ : ∃ parts, text.span (! endsAuthority kind ·) = parts := ⟨_, rfl⟩
  obtain ⟨⟨info?, location⟩, before⟩ : ∃ parts, splitLastAt inside = parts := ⟨_, rfl⟩
  rw [cut] at cut'
  rw [readAuthority_eq cut before, readAuthority_eq cut' before]
  by_cases bare : info? = some [] ∧ location = []
  · obtain ⟨rfl, rfl⟩ := bare
    rw [if_pos ⟨rfl, rfl, by simp⟩]
    by_cases ends : outside = []
    · -- here the text is an `@`
      have alone : text = ['@'] := by
        have whole : inside ++ outside = text := by
          rw [List.span_eq_takeWhile_dropWhile] at cut
          obtain ⟨rfl, rfl⟩ := cut
          exact List.takeWhile_append_dropWhile
        rw [← whole, ends, eq_of_splitLastAt before]
        rfl
      have special := more.resolve_right (not_not_intro alone)
      rw [if_neg (by simp [ends]), authorityOf_empty special]
      rfl
    · rw [if_pos ⟨rfl, rfl, ends⟩]
      rfl
  · rw [if_neg (by tauto), if_neg (by tauto)]
    cases authorityOf kind info? location with
    | error fault => rfl
    | ok read => simp [Except.map]

theorem skipSlash?_append :
    skipSlash? kind (text ++ mark :: query) = (skipSlash? kind text).map (· ++ mark :: query) := by
  unfold skipSlash?
  rw [dropWhile_append_mark (not_isRemoved isMark.isVisible)]
  cases text.dropWhile isRemoved with
  | nil => simp [isMark.not_isSlash]
  | cons c rest =>
    simp only [List.cons_append]
    split_ifs <;> rfl

theorem fileHost_append :
    fileHost (text ++ mark :: query) =
      (fileHost text).map fun read => (read.1, read.2 ++ mark :: query) := by
  have stops : (! endsAuthority .file mark) = false := by rw [isMark.endsAuthority, Bool.not_true]
  unfold fileHost
  rw [span_append_mark stops]
  obtain ⟨hostText, rest⟩ := text.span (! endsAuthority .file ·)
  simp only
  by_cases drive : isDriveSpelling (unbroken hostText)
  · simp only [if_pos drive]
    rfl
  by_cases empty : (unbroken hostText).isEmpty
  · simp only [if_neg drive, if_pos empty]
    rfl
  simp only [if_neg drive, if_neg empty]
  cases specialHost (unbroken hostText) <;> rfl

/-! ## The kinds of schemes -/

variable {scheme : List Char}

theorem afterSlashes_append (more : kind.isSpecial ∨ text ≠ ['@']) :
    afterSlashes scheme kind (text ++ mark :: query) = afterSlashes scheme kind text := by
  unfold afterSlashes
  rw [readAuthority_append isMark more]
  cases readAuthority kind text with
  | error fault => rfl
  | ok read =>
    show Except.ok _ = Except.ok _
    rw [beforeQuery_append isMark]

theorem head?_append_ne (text query : List Char) (other : text.head? ≠ some '/') :
    (text ++ mark :: query).head? ≠ some '/' := by
  have noSlash : mark ≠ '/' := by rcases isMark with rfl | rfl <;> decide
  cases text <;> simp_all

theorem plainAddress_append (more : text ≠ "//@".toList) :
    plainAddress scheme (text ++ mark :: query) = plainAddress scheme text := by
  by_cases rooted : ∃ rest, text = '/' :: rest
  · obtain ⟨rest, rfl⟩ := rooted
    by_cases located : ∃ after, rest = '/' :: after
    · obtain ⟨after, rfl⟩ := located
      exact afterSlashes_append isMark (.inr fun alone => more (by rw [alone]; rfl))
    · have other : rest.head? ≠ some '/' := fun first => located (by cases rest <;> simp_all)
      rw [List.cons_append, plainAddress_rooted other,
        plainAddress_rooted (head?_append_ne isMark rest query other), beforeQuery_append isMark]
  · have other : text.head? ≠ some '/' := fun first => rooted (by cases text <;> simp_all)
    rw [plainAddress_bare other, plainAddress_bare (head?_append_ne isMark text query other),
      beforeQuery_append isMark]

theorem fileAddress_append :
    fileAddress scheme (text ++ mark :: query) = fileAddress scheme text := by
  have slashes : (skipSlash? .file (text ++ mark :: query)).bind (skipSlash? .file) =
      ((skipSlash? .file text).bind (skipSlash? .file)).map (· ++ mark :: query) := by
    rw [skipSlash?_append isMark]
    cases skipSlash? .file text with
    | none => rfl
    | some rest => exact skipSlash?_append isMark
  unfold fileAddress
  rw [slashes]
  cases (skipSlash? .file text).bind (skipSlash? .file) with
  | none =>
    simp only [Option.map_none]
    rw [beforeQuery_append isMark, skipSlash?_append isMark, Option.isSome_map]
  | some rest =>
    simp only [Option.map_some]
    rw [fileHost_append isMark]
    cases fileHost rest with
    | error fault => rfl
    | ok read =>
      obtain ⟨host?, rest⟩ := read
      simp only [Except.map, bind, Except.bind]
      rw [beforeQuery_append isMark]

/-! ## Addresses -/

/-- Whether an address of a plain scheme has an authority that is nothing but an `@`, and ends with
it. -/
def IsDangling (text : List Char) : Prop :=
  ∃ scheme, splitScheme? (unbroken (trimmed text)) = some (scheme, "//@".toList) ∧
    SchemeKind.ofName scheme = .plain

/-- A query or fragment does not count, whatever it holds. -/
theorem ofText_append (ends : ∀ c, text.getLast? = some c → isVisible c)
    (more : ¬ IsDangling text) : Address.ofText (text ++ mark :: query) = Address.ofText text := by
  obtain ⟨rest, trimmed_eq⟩ := trimmed_append_mark isMark query ends
  unfold Address.ofText
  simp only [trimmed_eq, unbroken_append isMark, splitScheme?_append isMark]
  cases split : splitScheme? (unbroken (trimmed text)) with
  | none => rfl
  | some parts =>
    obtain ⟨scheme, after⟩ := parts
    simp only [Option.map_some]
    cases kind : SchemeKind.ofName scheme with
    | plain =>
      refine plainAddress_append isMark fun alone => more ⟨scheme, ?_, kind⟩
      rw [split, alone]
    | file =>
      -- the colon of the scheme comes before the query
      have colon : ((trimmed text).dropWhile (· != ':')) ≠ [] := by
        obtain ⟨first, name, whole, -⟩ := eq_of_splitScheme? split
        intro none
        have member : ':' ∈ unbroken (trimmed text) := by simp [whole]
        have passed := List.dropWhile_eq_nil_iff.mp none _ (List.mem_filter.mp member).1
        exact absurd passed (by decide)
      simp only
      rw [List.dropWhile_append, if_neg (by simpa using colon), List.tail_append_of_ne_nil colon]
      exact fileAddress_append isMark
    | network port =>
      simp only
      rw [dropWhile_append_mark (isMark.not_isSlash _)]
      exact afterSlashes_append isMark (.inl rfl)

/-- An authority that is nothing but an `@` is refused before a query. -/
theorem ofText_append_of_dangling (ends : ∀ c, text.getLast? = some c → isVisible c)
    (dangling : IsDangling text) : Address.ofText (text ++ mark :: query) = .error .emptyHost := by
  obtain ⟨rest, trimmed_eq⟩ := trimmed_append_mark isMark query ends
  obtain ⟨scheme, split, kind⟩ := dangling
  unfold Address.ofText
  simp only [trimmed_eq, unbroken_append isMark, splitScheme?_append isMark, split, Option.map_some,
    kind]
  have stops : (! endsAuthority .plain mark) = false := by rw [isMark.endsAuthority, Bool.not_true]
  have cut : ('@' :: mark :: unbroken rest).span (! endsAuthority .plain ·) =
      (['@'], mark :: unbroken rest) := @span_cons _ ['@'] _ _ (by simp; decide) stops
  show afterSlashes scheme .plain ('@' :: mark :: unbroken rest) = _
  rw [afterSlashes, readAuthority_eq cut rfl, if_pos ⟨rfl, rfl, by simp⟩]
  rfl

omit isMark in
/-- Where the text ends after it, such an authority is an empty one. -/
theorem ofText_of_dangling (dangling : IsDangling text) :
    ∃ scheme, Address.ofText text = .ok { scheme, path := [] } := by
  obtain ⟨scheme, split, kind⟩ := dangling
  refine ⟨scheme, ?_⟩
  unfold Address.ofText
  simp only [split, kind]
  rfl

end Seedbed.Url

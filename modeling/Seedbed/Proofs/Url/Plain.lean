import Mathlib.Data.List.TakeDrop
import Mathlib.Data.List.TakeWhile
import Seedbed.Proofs.Text.Number
import Seedbed.Url.Basic

/-!
# Addresses of plain schemes

How the parts of an address are told apart under a scheme that is not special, one lemma for each
part: what stands before the colon, before the last `@`, before the port and before the path. None
of it changes characters that need no encoding (`percentEncode_of_none`).
-/

namespace Seedbed.Url

open Seedbed.Text

/-! ## Cleaning -/

/-- Whether a character counts wherever it stands in an address. -/
def isVisible (c : Char) : Bool := decide (0x20 < c.toNat)

theorem not_isTrimmed {c : Char} (visible : isVisible c) : isTrimmed c = false := by
  rw [isVisible, decide_eq_true_eq] at visible
  exact decide_eq_false (Nat.not_le.mpr visible)

theorem not_isRemoved {c : Char} (visible : isVisible c) : isRemoved c = false := by
  rw [isRemoved]
  simp only [Bool.or_eq_false_iff, beq_eq_false_iff_ne]
  refine ⟨⟨?_, ?_⟩, ?_⟩ <;>
    · rintro rfl
      exact absurd visible (by decide)

variable {text : List Char}

theorem dropWhile_isTrimmed (starts : ∀ c, text.head? = some c → isVisible c) :
    text.dropWhile isTrimmed = text := by
  cases text with
  | nil => rfl
  | cons c text =>
    refine List.dropWhile_cons_of_neg ?_
    rw [not_isTrimmed (starts c rfl)]
    exact Bool.false_ne_true

/-- Blanks inside a text stay. -/
theorem trimmed_of_ends (starts : ∀ c, text.head? = some c → isVisible c)
    (ends : ∀ c, text.getLast? = some c → isVisible c) : trimmed text = text := by
  have turned : ∀ c, text.reverse.head? = some c → isVisible c := fun c last =>
    ends c (List.head?_reverse ▸ last)
  rw [trimmed, dropWhile_isTrimmed starts, dropWhile_isTrimmed turned, List.reverse_reverse]

theorem trimmed_append {first rest : List Char} (starts : ∀ c, first.head? = some c → isVisible c)
    (something : first ≠ []) (more : rest ≠ []) (visible : ∀ c ∈ rest, isVisible c) :
    trimmed (first ++ rest) = first ++ rest := by
  refine trimmed_of_ends (fun c same => starts c ?_) fun c same => visible c ?_
  · rwa [List.head?_append, List.head?_eq_some_head something, Option.some_or,
      ← List.head?_eq_some_head something] at same
  · rw [List.getLast?_append, List.getLast?_eq_some_getLast more, Option.some_or] at same
    exact Option.some.inj same ▸ List.getLast_mem more

theorem trimmed_of_visible (visible : ∀ c ∈ text, isVisible c) : trimmed text = text :=
  trimmed_of_ends (fun c first => visible c (List.mem_of_head? first))
    fun c last => visible c (List.mem_of_getLast? last)

theorem unbroken_of_visible (visible : ∀ c ∈ text, isVisible c) : unbroken text = text :=
  List.filter_eq_self.mpr fun c member => by rw [not_isRemoved (visible c member)]; rfl

/-! ## Cutting -/

/-- A text is cut where a condition first fails. -/
theorem span_append {p : Char → Bool} {first rest : List Char} (holds : ∀ c ∈ first, p c)
    (fails : ∀ c, rest.head? = some c → p c = false) : (first ++ rest).span p = (first, rest) := by
  have nothing : rest.takeWhile p = [] ∧ rest.dropWhile p = rest := by
    cases rest with
    | nil => exact ⟨rfl, rfl⟩
    | cons c rest =>
      have fails : ¬ p c := by simp [fails c rfl]
      exact ⟨List.takeWhile_cons_of_neg fails, List.dropWhile_cons_of_neg fails⟩
  rw [List.span_eq_takeWhile_dropWhile, List.takeWhile_append_of_pos holds,
    List.dropWhile_append_of_pos holds, nothing.1, nothing.2, List.append_nil]

theorem span_of_all {p : Char → Bool} (holds : ∀ c ∈ text, p c) : text.span p = (text, []) := by
  have cut := @span_append p text [] holds nofun
  rwa [List.append_nil] at cut

theorem span_cons {p : Char → Bool} {first rest : List Char} {c : Char} (holds : ∀ c ∈ first, p c)
    (fails : p c = false) : (first ++ c :: rest).span p = (first, c :: rest) :=
  span_append holds fun other same => by rw [← Option.some.inj same, fails]

/-! ## The scheme -/

theorem splitScheme?_colon {first : Char} {name : List Char} (rest : List Char)
    (starts : first.isAlpha) (chars : ∀ c ∈ first :: name, isSchemeChar c) :
    splitScheme? (first :: name ++ ':' :: rest) = some ((first :: name).map Char.toLower, rest) := by
  rw [splitScheme?, span_cons chars (by decide)]
  exact if_pos starts

/-! ## User information -/

theorem ne_of_mem_reverse (none : '@' ∉ text) : ∀ c ∈ text.reverse, (c != '@') = true := by
  intro c member
  rw [bne_iff_ne]
  rintro rfl
  exact none (List.mem_reverse.mp member)

theorem splitLastAt_at (before : List Char) {after : List Char} (none : '@' ∉ after) :
    splitLastAt (before ++ '@' :: after) = (some before, after) := by
  have turned : (before ++ '@' :: after).reverse = after.reverse ++ '@' :: before.reverse := by
    simp
  rw [splitLastAt, turned, span_cons (ne_of_mem_reverse none) (by decide)]
  simp only [List.reverse_reverse]

theorem splitLastAt_of_none (none : '@' ∉ text) : splitLastAt text = (.none, text) := by
  rw [splitLastAt, span_of_all (ne_of_mem_reverse none)]

/-- Characters that are not in the set stay as they are. -/
theorem percentEncode_of_none {encoded : Char → Bool} (none : ∀ c ∈ text, encoded c = false) :
    percentEncode encoded text = text := by
  rw [percentEncode]
  induction text with
  | nil => rfl
  | cons c text ih =>
    obtain ⟨first, others⟩ := List.forall_mem_cons.mp none
    rw [List.flatMap_cons, ih others, percentChar, first]
    rfl

theorem head?_percentChar {encoded : Char → Bool} {c : Char} (member : encoded c) :
    (percentChar encoded c).head? = some '%' := by
  rw [percentChar, if_pos member]
  cases bytes : String.utf8EncodeChar c with
  | nil => exact absurd bytes String.utf8EncodeChar_ne_nil
  | cons byte others => rfl

theorem percentEncode_ne_nil {encoded : Char → Bool} (some : text ≠ []) :
    percentEncode encoded text ≠ [] := by
  obtain ⟨c, others, rfl⟩ := List.exists_cons_of_ne_nil some
  refine List.append_ne_nil_of_left_ne_nil (fun empty => ?_) _
  by_cases member : encoded c
  · have first := head?_percentChar member
    rw [empty] at first
    cases first
  · rw [percentChar, if_neg member] at empty
    cases empty

/-- A text stays as it is only if it holds no character of the set. -/
theorem percentEncode_eq_self_iff {encoded : Char → Bool} (percent : encoded '%' = false) :
    percentEncode encoded text = text ↔ ∀ c ∈ text, encoded c = false := by
  refine ⟨fun same => ?_, percentEncode_of_none⟩
  induction text with
  | nil => nofun
  | cons c text ih =>
    rw [percentEncode, List.flatMap_cons] at same
    by_cases member : encoded c
    · -- The first character would be a percent sign, which is not in the set.
      have first := congrArg List.head? same
      rw [List.head?_append, head?_percentChar member] at first
      cases first
      rw [percent] at member
      cases member
    · rw [percentChar, if_neg member] at same
      exact List.forall_mem_cons.mpr ⟨Bool.eq_false_iff.mpr member, ih (List.cons.inj same).2⟩

theorem ne_colon_of_kept {c : Char} (kept : isUserinfoEncoded c = false) : (c != ':') = true := by
  rw [bne_iff_ne]
  rintro rfl
  exact absurd kept (by decide)

theorem splitUserinfo_name {user : List Char} (kept : ∀ c ∈ user, isUserinfoEncoded c = false) :
    splitUserinfo user = (user, none) := by
  rw [splitUserinfo, span_of_all fun c member => ne_colon_of_kept (kept c member)]
  simp only [percentEncode_of_none kept]

/-- A user name ends at the first colon. -/
theorem splitUserinfo_colon {user : List Char} (password : List Char)
    (plain : ∀ c ∈ user, (c != ':') = true) :
    splitUserinfo (user ++ ':' :: password) = (percentEncode isUserinfoEncoded user,
      if password.isEmpty then none else some (percentEncode isUserinfoEncoded password)) := by
  rw [splitUserinfo, span_cons plain (by decide)]

theorem splitUserinfo_password {user password : List Char}
    (kept : ∀ c ∈ user, isUserinfoEncoded c = false)
    (kept' : ∀ c ∈ password, isUserinfoEncoded c = false) :
    splitUserinfo (user ++ ':' :: password) =
      (user, if password.isEmpty then none else some password) := by
  rw [splitUserinfo_colon password fun c member => ne_colon_of_kept (kept c member),
    percentEncode_of_none kept, percentEncode_of_none kept']

/-! ## Host and port -/

/-- Whether a text is empty or starts with a colon. -/
def IsPortText (text : List Char) : Prop := text = [] ∨ text.head? = some ':'

theorem splitHost_port {port : List Char} (shape : IsPortText port) :
    splitHost false port = ([], port) := by
  cases port with
  | nil => rfl
  | cons c port =>
    obtain rfl : c = ':' := Option.some.inj (shape.resolve_left (List.cons_ne_nil _ _))
    rw [splitHost, if_pos ⟨rfl, Bool.false_ne_true⟩]

theorem splitHost_name {host port : List Char} (plain : ∀ c ∈ host, c ∉ [':', '[', ']'])
    (shape : IsPortText port) : splitHost false (host ++ port) = (host, port) := by
  induction host with
  | nil => exact splitHost_port shape
  | cons c host ih =>
    obtain ⟨first, others⟩ := List.forall_mem_cons.mp plain
    simp only [List.mem_cons, List.not_mem_nil, or_false, not_or] at first
    rw [List.cons_append, splitHost, if_neg fun colon => first.1 colon.1, if_neg first.2.1,
      if_neg first.2.2, ih others]

/-- A colon in brackets ends no host. -/
theorem splitHost_inside {inside port : List Char} (plain : ∀ c ∈ inside, c ∉ ['[', ']'])
    (shape : IsPortText port) :
    splitHost true (inside ++ ']' :: port) = (inside ++ [']'], port) := by
  induction inside with
  | nil =>
    rw [List.nil_append, splitHost, if_neg (by decide), if_neg (by decide), if_pos rfl,
      splitHost_port shape]
    rfl
  | cons c inside ih =>
    obtain ⟨first, others⟩ := List.forall_mem_cons.mp plain
    simp only [List.mem_cons, List.not_mem_nil, or_false, not_or] at first
    rw [List.cons_append, splitHost, if_neg (by simp), if_neg first.1, if_neg first.2, ih others]
    rfl

theorem splitHost_brackets {inside port : List Char} (plain : ∀ c ∈ inside, c ∉ ['[', ']'])
    (shape : IsPortText port) :
    splitHost false ('[' :: (inside ++ ']' :: port)) = ('[' :: (inside ++ [']']), port) := by
  rw [splitHost, if_neg (by decide), if_pos rfl, splitHost_inside plain shape]

theorem portOfDigits_toDigits {port : Nat} (small : port < 65536) :
    portOfDigits .plain (Nat.toDigits 10 port) = .ok (some port) := by
  have some : (Nat.toDigits 10 port).isEmpty = false :=
    List.isEmpty_eq_false_iff.mpr Nat.toDigits_ne_nil
  rw [portOfDigits, some, number?_toDigits (by decide) (by decide)]
  simp only [Bool.false_eq_true, if_false, if_neg (Nat.not_lt.mpr (Nat.le_of_lt_succ small))]
  rfl

/-! ## The authority -/

theorem cut_authority {inside outside : List Char} (plain : ∀ c ∈ inside, c ∉ ['?', '#', '/'])
    (shape : outside = [] ∨ outside.head? = some '/') :
    (inside ++ outside).span (! endsAuthority .plain ·) = (inside, outside) := by
  refine span_append ?_ ?_
  · intro c member
    have plain := plain c member
    simp only [List.mem_cons, List.not_mem_nil, or_false, not_or] at plain
    simp [endsAuthority, SchemeKind.isSlash, SchemeKind.isSpecial, plain]
  · intro c first
    rcases shape with rfl | shape
    · cases first
    · rw [← Option.some.inj (shape.symm.trans first)]
      decide

/-- How user information is read, if there is any. -/
def loginOf : (info? : Option (List Char)) → List Char × Option (List Char)
  | none => ([], none)
  | some info => splitUserinfo info

/-- An authority whose parts can be read, and that has a host or nothing but an empty one. -/
theorem readAuthority_of_parts {text inside outside location hostText portText user : List Char}
    {info? password? : Option (List Char)} {host? : Option Host} {port? : Option Nat}
    (cut : text.span (! endsAuthority .plain ·) = (inside, outside))
    (before : splitLastAt inside = (info?, location)) (login : loginOf info? = (user, password?))
    (around : splitHost false location = (hostText, portText))
    (host : hostOfText .plain hostText = .ok host?)
    (digits : portText.tail.takeWhile Char.isDigit = portText.tail)
    (port : portOfDigits .plain portText.tail = .ok port?)
    (present : (host?.isSome ∧ location ≠ []) ∨
      (info? = none ∧ portText = [] ∧ user = [] ∧ password? = none)) :
    readAuthority .plain text = .ok (⟨user, password?, host?, port?⟩, outside) := by
  have notBare : ¬ (info? = some [] ∧ location = [] ∧ outside ≠ []) := by
    rintro ⟨bare, empty, -⟩
    rcases present with ⟨-, some⟩ | ⟨none, -⟩
    · exact some empty
    · rw [none] at bare
      cases bare
  have hostOrNone : ¬ (host?.isNone ∧ portText ≠ []) := by
    rintro ⟨missing, some⟩
    rcases present with ⟨there, -⟩ | ⟨-, none, -⟩
    · rw [Option.isNone_iff_eq_none.mp missing] at there
      cases there
    · exact some none
  have hostOrNobody : ¬ (host?.isNone ∧ (user ≠ [] ∨ password?.isSome)) := by
    rintro ⟨missing, someone⟩
    rcases present with ⟨there, -⟩ | ⟨-, -, rfl, rfl⟩
    · rw [Option.isNone_iff_eq_none.mp missing] at there
      cases there
    · rcases someone with some | some
      · exact some rfl
      · cases some
  have all : portText.tail.drop portText.tail.length = [] := List.drop_length
  unfold readAuthority
  cases info? with
  | none | some info =>
    simp only [loginOf] at login
    simp only [cut, before, login, if_neg notBare, around, host, digits, port, all, bind,
      Except.bind, pure, Except.pure, if_neg hostOrNone, if_neg hostOrNobody,
      List.nil_append]

/-! ## The path -/

theorem segments_of_plain {segment : List Char} (plain : '/' ∉ segment) :
    segments .plain segment = [(segment, false)] := by
  induction segment with
  | nil => rfl
  | cons c segment ih =>
    have parts := not_or.mp (mt List.mem_cons.mpr plain)
    have other : SchemeKind.isSlash .plain c = false := by
      simp [SchemeKind.isSlash, SchemeKind.isSpecial, Ne.symm parts.1]
    rw [segments, ih parts.2, other]
    rfl

/-- A path of one segment that is no dot segment stays as it is. -/
theorem pathAfterHost_segment {segment : List Char} (plain : '/' ∉ segment)
    (kept : ∀ c ∈ segment, isPathEncoded c = false) (whole : unbroken segment = segment)
    (noDot : isDot segment = false) (noDots : isDoubleDot segment = false) :
    pathAfterHost .plain ('/' :: segment) = '/' :: segment := by
  have root : appendSegment .plain [] [] true = ['/'] := by decide
  have last : appendSegment .plain ['/'] segment false = '/' :: segment := by
    rw [appendSegment, whole, percentEncode_of_none kept, noDot, noDots]
    simp
  have parts : segments .plain ('/' :: segment) = [([], true), (segment, false)] := by
    rw [segments, segments_of_plain plain]
    rfl
  show appendPath .plain [] ('/' :: segment) = _
  rw [appendPath, parts]
  simp [root, last]

end Seedbed.Url

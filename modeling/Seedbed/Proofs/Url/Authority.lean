import Seedbed.Proofs.Url.Plain

/-!
# Reading authorities

An authority is read in two steps: the text is cut into user information, a location and what stands
outside, and then the first two are put together (`readAuthority_eq`). What stands outside is only
looked at to refuse user information that is empty and has nothing after it.
-/

namespace Seedbed.Url

/-- The authority of some user information and a location, with what is left of the location. -/
def authorityOf (kind : SchemeKind) (info? : Option (List Char)) (location : List Char) :
    Except Fault (Authority × List Char) := do
  let (user, password?) :=
    match info? with
    | none => ([], none)
    | some info => splitUserinfo info
  let (hostText, portText) := splitHost false location
  let host? ← hostOfText kind hostText
  if host?.isNone ∧ portText ≠ [] then throw .emptyHost
  let digits := portText.tail.takeWhile Char.isDigit
  let port? ← portOfDigits kind digits
  let rest := portText.tail.drop digits.length
  match rest with
  | [] => pure ()
  | c :: _ => if c ≠ '\\' then throw .invalidPort
  if host?.isNone ∧ (user ≠ [] ∨ password?.isSome) then throw .emptyHost
  return (⟨user, password?, host?, port?⟩, rest)

variable {kind : SchemeKind} {text inside outside location : List Char} {info? : Option (List Char)}

theorem readAuthority_eq (cut : text.span (! endsAuthority kind ·) = (inside, outside))
    (before : splitLastAt inside = (info?, location)) :
    readAuthority kind text =
      if info? = some [] ∧ location = [] ∧ outside ≠ [] then .error .emptyHost
      else (authorityOf kind info? location).map fun read => (read.1, read.2 ++ outside) := by
  unfold readAuthority authorityOf
  simp only [cut, before]
  by_cases bare : info? = some [] ∧ location = [] ∧ outside ≠ []
  · rw [if_pos bare, if_pos bare]
    rfl
  rw [if_neg bare, if_neg bare]
  generalize splitHost false location = parts
  obtain ⟨hostText, portText⟩ := parts
  simp only
  generalize portText.tail.takeWhile Char.isDigit = digits
  generalize portText.tail.drop digits.length = rest
  cases hostOfText kind hostText with
  | error fault => rfl
  | ok host? =>
    simp only [bind, Except.bind, throw, throwThe, MonadExceptOf.throw]
    by_cases portless : host?.isNone ∧ portText ≠ []
    · simp only [if_pos portless, Except.map]
    simp only [if_neg portless]
    cases portOfDigits kind digits with
    | error fault => rfl
    | ok port? =>
      cases rest with
      | nil => cases info? <;> simp only <;> split_ifs <;> rfl
      | cons c others => cases info? <;> simp only <;> split_ifs <;> rfl

/-! ## What is in an authority -/

/-- A text that is split at its last `@` holds it between its parts. -/
theorem eq_of_splitLastAt {before after : List Char}
    (split : splitLastAt text = (some before, after)) : text = before ++ '@' :: after := by
  have parts := List.takeWhile_append_dropWhile (p := (· != '@')) (l := text.reverse)
  unfold splitLastAt at split
  rw [List.span_eq_takeWhile_dropWhile] at split
  cases rest : text.reverse.dropWhile (· != '@') with
  | nil => simp [rest] at split
  | cons c others =>
    have isAt : c = '@' := by
      have stops := List.head_dropWhile_not (l := text.reverse) (· != '@') (by simp [rest])
      simpa [rest] using stops
    simp only [rest, Prod.mk.injEq, Option.some.injEq] at split parts
    obtain ⟨rfl, rfl⟩ := split
    have turned := congrArg List.reverse parts
    rw [List.reverse_reverse] at turned
    exact turned.symm.trans (by simp [isAt])

/-- A special scheme needs a host. -/
theorem authorityOf_empty (special : kind.isSpecial) :
    authorityOf kind info? [] = .error .emptyHost := by
  have host : hostOfText kind [] = .error .emptyHost := by simp [hostOfText, special]
  simp [authorityOf, splitHost, host]
  rfl

end Seedbed.Url

import Seedbed.Proofs.Dsn.Assembly
import Seedbed.Proofs.Url.Query

/-!
# Connection strings with a query

A query or fragment changes nothing about what a connection string means, unless the string is
nothing but a plain scheme and `://@` (`parse_query`): alone it stands for the defaults, and with a
query it is refused.
-/

namespace Seedbed.Dsn

/-- Whether a connection string, less the blanks around it and the line breaks in it, is a plain
scheme and an authority that is nothing but an `@`. -/
def IsDangling (dsn : String) : Prop :=
  ∃ scheme : Scheme,
    Url.unbroken (Url.trimmed dsn.toList) = scheme.first :: scheme.others ++ "://@".toList

theorem isDangling_iff {dsn : String} : IsDangling dsn ↔ Url.IsDangling dsn.toList := by
  constructor
  · rintro ⟨scheme, whole⟩
    refine ⟨(scheme.first :: scheme.others).map Char.toLower, ?_, ofName_scheme scheme⟩
    rw [whole]
    exact Url.splitScheme?_colon _ scheme.starts scheme.chars
  · rintro ⟨name, split, plain⟩
    obtain ⟨first, others, whole, starts, chars, rfl⟩ := Url.eq_of_splitScheme? split
    refine ⟨⟨first, others, starts, chars, fun special => ?_⟩, whole⟩
    -- each of the special names is of another kind
    generalize (first :: others).map Char.toLower = name at plain special
    simp only [List.mem_cons, List.not_mem_nil, or_false] at special
    rcases special with same | same | same | same | same | same <;>
      · have same := congrArg String.toList same
        rw [String.toList_ofList] at same
        rw [same] at plain
        exact absurd plain (by decide)

/-- The parameters of a connection string that leaves everything out. -/
def standing : ConnectionParams := ⟨"localhost", 5432, "postgres", "", "postgres"⟩

/-- A query or fragment does not count, except after an authority that is nothing but an `@`. -/
theorem parse_query {dsn : String} {mark : Char} (isMark : mark = '?' ∨ mark = '#')
    (ends : ∀ c, dsn.toList.getLast? = some c → Url.isTrimmed c = false) (query : String) :
    (ConnectionParams.parse (dsn.push mark ++ query) = ConnectionParams.parse dsn ↔
      ¬ IsDangling dsn) ∧
    (IsDangling dsn → ConnectionParams.parse dsn = .ok standing ∧
      ConnectionParams.parse (dsn.push mark ++ query) = .error .emptyHost) := by
  have text : (dsn.push mark ++ query).toList = dsn.toList ++ mark :: query.toList := by simp
  have visible : ∀ c, dsn.toList.getLast? = some c → Url.isVisible c := by
    intro c last
    have untrimmed := ends c last
    simp only [Url.isTrimmed, Url.isVisible, decide_eq_false_iff_not,
      decide_eq_true_eq] at untrimmed ⊢
    omega
  have dangling (dangles : IsDangling dsn) : ConnectionParams.parse dsn = .ok standing ∧
      ConnectionParams.parse (dsn.push mark ++ query) = .error .emptyHost := by
    have dangles := isDangling_iff.mp dangles
    constructor
    · obtain ⟨scheme, address⟩ := Url.ofText_of_dangling dangles
      rw [ConnectionParams.parse, address]
      rfl
    · rw [ConnectionParams.parse_eq_error_iff, text]
      exact Url.ofText_append_of_dangling isMark visible dangles
  refine ⟨⟨fun same dangles => ?_, fun whole => ?_⟩, dangling⟩
  · obtain ⟨alone, asked⟩ := dangling dangles
    rw [alone, asked] at same
    cases same
  · rw [ConnectionParams.parse, ConnectionParams.parse, text,
      Url.ofText_append isMark visible (mt isDangling_iff.mpr whole)]

/-- An address in brackets, and a query that looks like the rest of an address. -/
theorem parse_query_brackets :
    (('?' = '?' ∨ '?' = '#') ∧ ∀ c, "postgresql://u:p@[::1]:6000/app".toList.getLast? = some c →
      Url.isTrimmed c = false) ∧
    ConnectionParams.parse ("postgresql://u:p@[::1]:6000/app".push '?' ++ "a=b@c:d/e?f#g") =
      ConnectionParams.parse "postgresql://u:p@[::1]:6000/app" := by
  have ends : ∀ c, "postgresql://u:p@[::1]:6000/app".toList.getLast? = some c →
      Url.isTrimmed c = false := by
    intro c last
    obtain rfl : 'p' = c := Option.some.inj last
    rfl
  refine ⟨⟨.inl rfl, ends⟩, (parse_query (.inl rfl) ends _).1.mpr ?_⟩
  rintro ⟨scheme, whole⟩
  have last : (Url.unbroken (Url.trimmed "postgresql://u:p@[::1]:6000/app".toList)).getLast? =
      some '@' := by
    rw [whole, List.getLast?_append]
    rfl
  exact absurd last (by decide)

/-- An authority that is nothing but an `@` is accepted, but not with a query. -/
theorem query_refused :
    ConnectionParams.parse "postgresql://@" = .ok standing ∧
      ConnectionParams.parse "postgresql://@?sslmode=disable" = .error .emptyHost :=
  ⟨rfl, rfl⟩

end Seedbed.Dsn

import Seedbed.Dsn
import Seedbed.Proofs.Url.Ipv6
import Seedbed.Proofs.Url.Plain

/-!
# Connection strings that are put together

A connection string of a plain scheme is put together from its parts, most of which may be left out.
Reading it gives the parts back, and the defaults for those that were left out (`parse_text`). The
parts hold only characters that stand for themselves wherever they are (`isLiteral`), and a host may
be an IPv6 address in brackets.
-/

namespace Seedbed.Dsn

open Url (isSchemeChar isVisible isUserinfoEncoded isPathEncoded isControlEncoded IsPortText)

/-! ## Characters -/

/-- Letters and digits of ASCII, hyphens, full stops, low lines and tildes. -/
def isUnreserved (c : Char) : Bool := c.isAlphanum || c ∈ ['-', '.', '_', '~']

/-- The characters of user names and passwords: a percent sign is one of them. -/
def isLoginChar (c : Char) : Bool := isUnreserved c || c == '%'

/-- Whether a character stands for itself in every part. -/
def isLiteral (c : Char) : Bool :=
  isVisible c && !isUserinfoEncoded c && !Url.isForbiddenInHost c

theorem ascii_of_isLoginChar {c : Char} (login : isLoginChar c) : c.toNat < 128 := by
  simp only [isLoginChar, isUnreserved, Bool.or_eq_true, decide_eq_true_eq, beq_iff_eq,
    List.mem_cons, List.not_mem_nil, or_false] at login
  rcases login with (alphanum | rfl | rfl | rfl | rfl) | rfl
  · exact Text.ascii_of_isAlphanum alphanum
  all_goals decide

theorem ascii_of_isSchemeChar {c : Char} (part : isSchemeChar c) : c.toNat < 128 := by
  simp only [isSchemeChar, Bool.or_eq_true, beq_iff_eq] at part
  rcases part with ((alphanum | rfl) | rfl) | rfl
  · exact Text.ascii_of_isAlphanum alphanum
  all_goals decide

theorem isLiteral_of_isLoginChar {c : Char} (login : isLoginChar c) : isLiteral c := by
  have all : ∀ n < 128, isLoginChar (Char.ofNat n) → isLiteral (Char.ofNat n) := by decide
  have ascii := ascii_of_isLoginChar login
  rw [← Char.ofNat_toNat c] at login ⊢
  exact all _ ascii login

theorem isLiteral_of_isUnreserved {c : Char} (unreserved : isUnreserved c) : isLiteral c :=
  isLiteral_of_isLoginChar (by rw [isLoginChar, unreserved, Bool.true_or])

theorem isVisible_of_isSchemeChar {c : Char} (part : isSchemeChar c) : isVisible c := by
  have all : ∀ n < 128, isSchemeChar (Char.ofNat n) → isVisible (Char.ofNat n) := by decide
  have ascii := ascii_of_isSchemeChar part
  rw [← Char.ofNat_toNat c] at part ⊢
  exact all _ ascii part

section

variable {c : Char} (literal : isLiteral c)
include literal

theorem isVisible_of_isLiteral : isVisible c := by
  simp only [isLiteral, Bool.and_eq_true] at literal
  exact literal.1.1

theorem not_isUserinfoEncoded : isUserinfoEncoded c = false := by
  simp only [isLiteral, Bool.and_eq_true, Bool.not_eq_true'] at literal
  exact literal.1.2

theorem not_isForbiddenInHost : Url.isForbiddenInHost c = false := by
  simp only [isLiteral, Bool.and_eq_true, Bool.not_eq_true'] at literal
  exact literal.2

theorem not_isPathEncoded : isPathEncoded c = false :=
  (Bool.or_eq_false_iff.mp (not_isUserinfoEncoded literal)).1

theorem not_isControlEncoded : isControlEncoded c = false :=
  (Bool.or_eq_false_iff.mp (not_isPathEncoded literal)).1

/-- None of the characters that tell parts apart is literal. -/
theorem ne_mark_of_isLiteral : c ∉ ['/', '?', '#', '@', ':', '[', ']'] := by
  intro mark
  simp only [List.mem_cons, List.not_mem_nil, or_false] at mark
  rcases mark with rfl | rfl | rfl | rfl | rfl | rfl | rfl <;> exact absurd literal (by decide)

end

/-! ## Parts -/

/-- The scheme of a connection string; it is none of the special ones. -/
structure Scheme where
  first : Char
  others : List Char
  starts : first.isAlpha
  chars : ∀ c ∈ first :: others, isSchemeChar c
  plain : String.ofList ((first :: others).map Char.toLower) ∉
    ["http", "https", "ws", "wss", "ftp", "file"]

/-- A host: a name, or the eight groups of an IPv6 address. -/
inductive Host where
  | name (text : List Char) (some : text ≠ []) (unreserved : ∀ c ∈ text, isUnreserved c)
  | address (groups : List Nat) (eight : groups.length = 8)
    (small : ∀ group ∈ groups, group < 65536)

/-- As whom to open a database. There is a user or a password or both. -/
structure Login where
  user : List Char
  password? : Option (List Char)
  userChars : ∀ c ∈ user, isLoginChar c
  passwordChars : ∀ password, password? = some password → ∀ c ∈ password, isLoginChar c
  some : user ≠ [] ∨ password?.isSome

/-- Where a database is, and as whom to open it. -/
structure Location where
  login? : Option Login
  host : Host
  port? : Option (Fin 65536)

/-- The name of a database; it is no dot segment. -/
structure DatabaseName where
  text : List Char
  some : text ≠ []
  unreserved : ∀ c ∈ text, isUnreserved c
  noDot : text ≠ ['.']
  noDots : text ≠ ['.', '.']

/-- The parts of a connection string. Without a host there is neither a login nor a port. -/
structure Parts where
  scheme : Scheme
  location? : Option Location
  database? : Option DatabaseName

/-! ## What is written -/

/-- A host without brackets. -/
def Host.shown : Host → List Char
  | .name text _ _ => text
  | .address groups _ _ => Url.ipv6Text groups

/-- A host as it is written in a connection string. -/
def Host.text : Host → List Char
  | .name text _ _ => text
  | .address groups _ _ => '[' :: (Url.ipv6Text groups ++ [']'])

/-- A login as it is written. -/
def Login.text (login : Login) : List Char :=
  login.user ++ login.password?.elim [] (':' :: ·)

/-- A port as it is written, after a colon. -/
def portText (port? : Option (Fin 65536)) : List Char :=
  port?.elim [] fun port => ':' :: Nat.toDigits 10 port

/-- A location as it is written. -/
def Location.text (location : Location) : List Char :=
  location.login?.elim [] (·.text ++ ['@']) ++ (location.host.text ++ portText location.port?)

/-- The path that names a database. -/
def pathText (database? : Option DatabaseName) : List Char := database?.elim [] ('/' :: ·.text)

/-- A connection string as it is written. -/
def Parts.text (parts : Parts) : List Char :=
  parts.scheme.first :: parts.scheme.others ++
    ':' :: '/' :: '/' :: (parts.location?.elim [] Location.text ++ pathText parts.database?)

/-! ## What is meant -/

/-- The login, if there is one. -/
def Parts.login? (parts : Parts) : Option Login := parts.location?.bind (·.login?)

/-- The parameters that a connection string stands for. -/
def Parts.params (parts : Parts) : ConnectionParams where
  host := parts.location?.elim "localhost" fun location => String.ofList location.host.shown
  port := (parts.location?.bind (·.port?)).elim 5432 Fin.val
  user := parts.login?.elim "postgres" fun login =>
    if login.user = [] then "postgres" else String.ofList login.user
  password := (parts.login?.bind (·.password?)).elim "" String.ofList
  database := parts.database?.elim "postgres" fun database => String.ofList database.text

/-- The host that an address holds. -/
def Host.value : Host → Url.Host
  | .name text _ _ => .name text
  | .address groups _ _ => .ipv6 groups

/-- The authority that an address holds; an empty password is none. -/
def Location.authority (location : Location) : Url.Authority where
  user := location.login?.elim [] (·.user)
  password? := (location.login?.bind (·.password?)).filter (! ·.isEmpty)
  host? := some location.host.value
  port? := location.port?.map Fin.val

/-! ## Reading -/

theorem isUnreserved_of_isGroupDigit {c : Char} (digit : Url.isGroupDigit c) : isUnreserved c := by
  have kinds : (c.isUpper || c.isLower) || c.isDigit := by
    rw [Url.isGroupDigit, Text.digitValue?] at digit
    cases isDigit : c.isDigit <;> cases isLower : c.isLower <;> cases isUpper : c.isUpper <;>
      simp_all
  have alphanum : c.isAlphanum := kinds
  rw [isUnreserved, alphanum, Bool.true_or]

/-- The text of an address holds literal characters and colons. -/
theorem isLiteral_or_colon {groups : List Nat} {c : Char} (member : c ∈ Url.ipv6Text groups) :
    isLiteral c ∨ c = ':' := by
  rcases Url.mem_ipv6Text member with digit | colon | rfl
  · exact .inl (isLiteral_of_isUnreserved (isUnreserved_of_isGroupDigit digit))
  · exact .inr colon
  · exact .inl (by decide)

theorem portText_shape (port? : Option (Fin 65536)) : IsPortText (portText port?) := by
  cases port? with
  | none => exact .inl rfl
  | some port => exact .inr rfl

namespace Host

variable (host : Host)

theorem splitHost_text (port? : Option (Fin 65536)) :
    Url.splitHost false (host.text ++ portText port?) = (host.text, portText port?) := by
  cases host with
  | name text some unreserved =>
    refine Url.splitHost_name (fun c member mark => ?_) (portText_shape port?)
    refine ne_mark_of_isLiteral (isLiteral_of_isUnreserved (unreserved c member)) ?_
    simp only [List.mem_cons, List.not_mem_nil, or_false] at mark ⊢
    tauto
  | address groups eight small =>
    rw [text, List.cons_append, List.append_assoc, List.singleton_append]
    refine Url.splitHost_brackets (fun c member mark => ?_) (portText_shape port?)
    rcases isLiteral_or_colon member with literal | rfl
    · refine ne_mark_of_isLiteral literal ?_
      simp only [List.mem_cons, List.not_mem_nil, or_false] at mark ⊢
      tauto
    · exact absurd mark (by decide)

theorem hostOfText_text : Url.hostOfText .plain host.text = .ok (some host.value) := by
  cases host with
  | name text some unreserved =>
    have literal (c : Char) (member : c ∈ text) := isLiteral_of_isUnreserved (unreserved c member)
    have noBracket : text.head? ≠ .some '[' := fun bracket =>
      absurd (literal _ (List.mem_of_head? bracket)) (by decide)
    have allowed : text.any Url.isForbiddenInHost = false :=
      List.any_eq_false.mpr fun c member => by rw [not_isForbiddenInHost (literal c member)]; nofun
    have same := Url.percentEncode_of_none fun c member => not_isControlEncoded (literal c member)
    show (if text.isEmpty then .ok none else (Url.opaqueHost text).map .some) = _
    rw [List.isEmpty_eq_false_iff.mpr some, Url.opaqueHost, if_neg noBracket, allowed, same]
    rfl
  | address groups eight small =>
    have inside : ('[' :: (Url.ipv6Text groups ++ [']'])).tail.dropLast = Url.ipv6Text groups :=
      List.dropLast_concat
    have last : ('[' :: (Url.ipv6Text groups ++ [']'])).getLast? = some ']' := by
      rw [← List.cons_append, List.getLast?_concat]
    show (Url.bracketedHost ('[' :: (Url.ipv6Text groups ++ [']']))).map some = _
    rw [Url.bracketedHost, if_pos last, inside, Url.ipv6Groups?_ipv6Text eight small]
    rfl

theorem text_ne_nil : host.text ≠ [] := by
  cases host with
  | name text some unreserved => exact some
  | address groups eight small => exact List.cons_ne_nil _ _

end Host

/-- A host and a port hold literal characters, colons and brackets. -/
theorem mem_host_port {host : Host} {port? : Option (Fin 65536)} {c : Char}
    (member : c ∈ host.text ++ portText port?) : isLiteral c ∨ c ∈ [':', '[', ']'] := by
  rcases List.mem_append.mp member with inHost | inPort
  · cases host with
    | name text some unreserved => exact .inl (isLiteral_of_isUnreserved (unreserved c inHost))
    | address groups eight small =>
      rw [Host.text, List.mem_cons, List.mem_append, List.mem_singleton] at inHost
      rcases inHost with rfl | inside | rfl
      · exact .inr (by decide)
      · refine (isLiteral_or_colon inside).imp_right ?_
        rintro rfl
        exact List.mem_cons_self
      · exact .inr (by decide)
  · cases port? with
    | none => cases inPort
    | some port =>
      rcases List.mem_cons.mp inPort with rfl | digit
      · exact .inr (by decide)
      · have decimal := Url.isGroupDigit_of_decimal digit
        exact .inl (isLiteral_of_isUnreserved (isUnreserved_of_isGroupDigit decimal))

theorem mem_login {login : Login} {c : Char} (member : c ∈ login.text) :
    isLiteral c ∨ c = ':' := by
  rcases List.mem_append.mp member with inUser | inPassword
  · exact .inl (isLiteral_of_isLoginChar (login.userChars c inUser))
  · cases present : login.password? with
    | none =>
      rw [present] at inPassword
      cases inPassword
    | some password =>
      rw [present] at inPassword
      rcases List.mem_cons.mp inPassword with colon | inside
      · exact .inr colon
      · exact .inl (isLiteral_of_isLoginChar (login.passwordChars password present c inside))

/-- A location holds literal characters and a few marks. -/
theorem Location.mem_text {location : Location} {c : Char} (member : c ∈ location.text) :
    isLiteral c ∨ c ∈ [':', '@', '[', ']'] := by
  rcases List.mem_append.mp member with inLogin | inHost
  · cases present : location.login? with
    | none =>
      rw [present] at inLogin
      cases inLogin
    | some login =>
      rw [present] at inLogin
      rcases List.mem_append.mp inLogin with inText | at_
      · refine (mem_login inText).imp_right ?_
        rintro rfl
        exact List.mem_cons_self
      · rw [List.mem_singleton.mp at_]
        exact .inr (by decide)
  · refine (mem_host_port inHost).imp_right fun mark => ?_
    simp only [List.mem_cons, List.not_mem_nil, or_false] at mark ⊢
    tauto

/-- The login is told apart from host and port. -/
theorem splitLastAt_text (location : Location) :
    Url.splitLastAt location.text =
      (location.login?.map Login.text, location.host.text ++ portText location.port?) := by
  have none : '@' ∉ location.host.text ++ portText location.port? := fun member =>
    (mem_host_port member).elim (by decide) (by decide)
  rw [Location.text]
  cases location.login? with
  | none => exact Url.splitLastAt_of_none none
  | some login =>
    show Url.splitLastAt (login.text ++ ['@'] ++ _) = _
    rw [List.append_assoc]
    exact Url.splitLastAt_at login.text none

/-- User and password are told apart. -/
theorem loginOf_text (login? : Option Login) :
    Url.loginOf (login?.map Login.text) =
      (login?.elim [] (·.user), (login?.bind (·.password?)).filter (! ·.isEmpty)) := by
  cases login? with
  | none => rfl
  | some login =>
    have kept (c : Char) (login : isLoginChar c) :=
      not_isUserinfoEncoded (isLiteral_of_isLoginChar login)
    have keptUser := fun c member => kept c (login.userChars c member)
    show Url.splitUserinfo (login.user ++ _) = (login.user, login.password?.filter _)
    cases present : login.password? with
    | none =>
      rw [Option.elim_none, List.append_nil, Url.splitUserinfo_name keptUser]
      rfl
    | some password =>
      have keptPassword := fun c member => kept c (login.passwordChars password present c member)
      rw [Option.elim_some, Url.splitUserinfo_password keptUser keptPassword]
      cases password <;> rfl

theorem takeWhile_portText (port? : Option (Fin 65536)) :
    (portText port?).tail.takeWhile Char.isDigit = (portText port?).tail := by
  cases port? with
  | none => rfl
  | some port =>
    have digits : ∀ c ∈ Nat.toDigits 10 port, c.isDigit := fun c member =>
      Nat.isDigit_of_mem_toDigits (by decide) (by decide) member
    exact List.takeWhile_eq_self_iff.mpr digits

theorem portOfDigits_portText (port? : Option (Fin 65536)) :
    Url.portOfDigits .plain (portText port?).tail = .ok (port?.map Fin.val) := by
  cases port? with
  | none => rfl
  | some port => exact Url.portOfDigits_toDigits port.isLt

theorem pathText_shape (database? : Option DatabaseName) :
    pathText database? = [] ∨ (pathText database?).head? = some '/' := by
  cases database? with
  | none => exact .inl rfl
  | some database => exact .inr rfl

/-- A location is read back, up to the path. -/
theorem readAuthority_text (location : Location) (database? : Option DatabaseName) :
    Url.readAuthority .plain (location.text ++ pathText database?) =
      .ok (location.authority, pathText database?) := by
  refine Url.readAuthority_of_parts
    (Url.cut_authority (fun c member mark => ?_) (pathText_shape database?))
    (splitLastAt_text location) (loginOf_text location.login?)
    (location.host.splitHost_text location.port?) location.host.hostOfText_text
    (takeWhile_portText location.port?) (portOfDigits_portText location.port?) ?_
  · simp only [List.mem_cons, List.not_mem_nil, or_false] at mark
    rcases Location.mem_text member with literal | other
    · refine ne_mark_of_isLiteral literal ?_
      simp only [List.mem_cons, List.not_mem_nil, or_false]
      tauto
    · rcases mark with rfl | rfl | rfl <;> exact absurd other (by decide)
  · exact .inl ⟨rfl, List.append_ne_nil_of_left_ne_nil location.host.text_ne_nil _⟩

/-- Without a location there is nothing before the path. -/
theorem readAuthority_pathText (database? : Option DatabaseName) :
    Url.readAuthority .plain (pathText database?) = .ok ({}, pathText database?) := by
  have cut := @Url.cut_authority [] _ nofun (pathText_shape database?)
  exact Url.readAuthority_of_parts cut rfl rfl rfl rfl rfl rfl (.inr ⟨rfl, rfl, rfl, rfl⟩)

theorem eq_of_toLower {c mark : Char} (unreserved : isUnreserved c) (known : mark ∈ ['.', '%'])
    (same : c.toLower = mark) : c = mark := by
  have dot : ∀ n < 128, (Char.ofNat n).toLower = '.' → Char.ofNat n = '.' := by decide
  have percent : ∀ n < 128, (Char.ofNat n).toLower = '%' → Char.ofNat n = '%' := by decide
  have login : isLoginChar c := by rw [isLoginChar, unreserved, Bool.true_or]
  have ascii := ascii_of_isLoginChar login
  rw [← Char.ofNat_toNat c] at same ⊢
  simp only [List.mem_cons, List.not_mem_nil, or_false] at known
  rcases known with rfl | rfl
  · exact dot _ ascii same
  · exact percent _ ascii same

namespace DatabaseName

variable (database : DatabaseName)

/-- No percent sign comes up when the name is written in small letters. -/
theorem percent_not_mem : '%' ∉ database.text.map Char.toLower := by
  intro member
  obtain ⟨c, inside, same⟩ := List.mem_map.mp member
  have unreserved := database.unreserved c inside
  rw [eq_of_toLower unreserved (by decide) same] at unreserved
  exact absurd unreserved (by decide)

/-- Only full stops become full stops when the name is written in small letters. -/
theorem eq_dots {count : Nat} (same : database.text.map Char.toLower = List.replicate count '.') :
    database.text = List.replicate count '.' := by
  refine List.eq_replicate_iff.mpr ⟨?_, fun c member => ?_⟩
  · rw [← List.length_map, same, List.length_replicate]
  · have lowered : c.toLower ∈ List.replicate count '.' := same ▸ List.mem_map_of_mem member
    exact eq_of_toLower (database.unreserved c member) (by decide) (List.eq_of_mem_replicate lowered)

/-- Written in small letters, the name is none of the spellings of dot segments. -/
theorem not_dots {spellings : List String} (plain : ∀ spelling ∈ spellings,
      '%' ∈ spelling.toList ∨ ∃ count ∈ [1, 2], spelling.toList = List.replicate count '.') :
    String.ofList (database.text.map Char.toLower) ∉ spellings := by
  intro member
  rcases plain _ member with percent | ⟨count, few, dots⟩
  · rw [String.toList_ofList] at percent
    exact database.percent_not_mem percent
  · rw [String.toList_ofList] at dots
    have same := database.eq_dots dots
    simp only [List.mem_cons, List.not_mem_nil, or_false] at few
    rcases few with rfl | rfl
    · exact database.noDot same
    · exact database.noDots same

theorem isDot_text : Url.isDot database.text = false := by
  refine decide_eq_false (database.not_dots fun spelling member => ?_)
  simp only [List.mem_cons, List.not_mem_nil, or_false] at member
  rcases member with rfl | rfl
  · exact .inr ⟨1, by decide, rfl⟩
  · exact .inl (List.mem_cons_self : '%' ∈ ['%', '2', 'e'])

theorem isDoubleDot_text : Url.isDoubleDot database.text = false := by
  refine decide_eq_false (database.not_dots fun spelling member => ?_)
  simp only [List.mem_cons, List.not_mem_nil, or_false] at member
  rcases member with rfl | rfl | rfl | rfl
  · exact .inr ⟨2, by decide, rfl⟩
  · exact .inl (List.mem_cons_self : '%' ∈ ['%', '2', 'e', '.'])
  · exact .inl (List.mem_cons_of_mem _ List.mem_cons_self : '%' ∈ ['.', '%', '2', 'e'])
  · exact .inl (List.mem_cons_self : '%' ∈ ['%', '2', 'e', '%', '2', 'e'])

end DatabaseName

/-- The name of a database is the path as it is written, after a slash. -/
theorem pathAfterHost_pathText (database? : Option DatabaseName) :
    Url.pathAfterHost .plain (Url.beforeQuery (pathText database?)) = pathText database? := by
  cases database? with
  | none => rfl
  | some database =>
    have literal (c : Char) (member : c ∈ database.text) :=
      isLiteral_of_isUnreserved (database.unreserved c member)
    have apart (mark : Char) (known : mark ∈ ['/', '?', '#', '@', ':', '[', ']']) :
        mark ∉ database.text := fun member => ne_mark_of_isLiteral (literal mark member) known
    have before : Url.beforeQuery ('/' :: database.text) = '/' :: database.text := by
      refine List.takeWhile_eq_self_iff.mpr fun c member => ?_
      simp only [Bool.and_eq_true, bne_iff_ne]
      constructor <;> rintro rfl
      · exact apart '?' (by decide) (List.mem_of_ne_of_mem (by decide) member)
      · exact apart '#' (by decide) (List.mem_of_ne_of_mem (by decide) member)
    have whole := Url.unbroken_of_visible fun c member => isVisible_of_isLiteral (literal c member)
    show Url.pathAfterHost .plain (Url.beforeQuery ('/' :: database.text)) = '/' :: database.text
    rw [before]
    exact Url.pathAfterHost_segment (apart '/' (by decide))
      (fun c member => not_isPathEncoded (literal c member)) whole database.isDot_text database.isDoubleDot_text

/-- A connection string holds no blanks and no controls. -/
theorem Parts.visible (parts : Parts) : ∀ c ∈ parts.text, isVisible c := by
  have scheme : ∀ c ∈ parts.scheme.first :: parts.scheme.others, isVisible c := fun c member =>
    isVisible_of_isSchemeChar (parts.scheme.chars c member)
  have location : ∀ c ∈ parts.location?.elim [] Location.text, isVisible c := by
    cases parts.location? with
    | none => nofun
    | some location =>
      intro c member
      rcases Location.mem_text member with literal | mark
      · exact isVisible_of_isLiteral literal
      · simp only [List.mem_cons, List.not_mem_nil, or_false] at mark
        rcases mark with rfl | rfl | rfl | rfl <;> decide
  have path : ∀ c ∈ pathText parts.database?, isVisible c := by
    cases parts.database? with
    | none => nofun
    | some database =>
      refine List.forall_mem_cons.mpr ⟨by decide, fun c member => ?_⟩
      exact isVisible_of_isLiteral (isLiteral_of_isUnreserved (database.unreserved c member))
  refine List.forall_mem_append.mpr ⟨scheme, ?_⟩
  refine List.forall_mem_cons.mpr ⟨by decide, List.forall_mem_cons.mpr ⟨by decide,
    List.forall_mem_cons.mpr ⟨by decide, List.forall_mem_append.mpr ⟨location, path⟩⟩⟩⟩

theorem ofName_scheme (scheme : Scheme) :
    Url.SchemeKind.ofName ((scheme.first :: scheme.others).map Char.toLower) = .plain := by
  have plain (special : String)
      (known : special ∈ ["http", "https", "ws", "wss", "ftp", "file"]) :
      (scheme.first :: scheme.others).map Char.toLower ≠ special.toList := fun same =>
    scheme.plain (by rwa [same, String.ofList_toList])
  rw [Url.SchemeKind.ofName, if_neg, if_neg, if_neg (plain "ftp" (by simp)),
    if_neg (plain "file" (by simp))]
  · exact not_or.mpr ⟨plain "https" (by simp), plain "wss" (by simp)⟩
  · exact not_or.mpr ⟨plain "http" (by simp), plain "ws" (by simp)⟩

/-- The address that a connection string is. -/
theorem ofText_text (parts : Parts) :
    Url.Address.ofText parts.text = .ok {
      scheme := (parts.scheme.first :: parts.scheme.others).map Char.toLower
      authority := parts.location?.elim {} Location.authority
      path := pathText parts.database? } := by
  have authority : Url.readAuthority .plain
      (parts.location?.elim [] Location.text ++ pathText parts.database?) =
      .ok (parts.location?.elim {} Location.authority, pathText parts.database?) := by
    cases parts.location? with
    | none => exact readAuthority_pathText parts.database?
    | some location => exact readAuthority_text location parts.database?
  rw [Url.Address.ofText, Url.trimmed_of_visible parts.visible,
    Url.unbroken_of_visible parts.visible, Parts.text,
    Url.splitScheme?_colon _ parts.scheme.starts parts.scheme.chars]
  simp only [ofName_scheme]
  show Url.afterSlashes _ .plain _ = _
  rw [Url.afterSlashes, authority]
  show Except.ok _ = _
  rw [pathAfterHost_pathText]

/-! ## What is read -/

theorem orDefault_of_ne_nil {text : List Char} (some : text ≠ []) (standing : String) :
    ConnectionParams.orDefault text standing = String.ofList text := by
  rw [ConnectionParams.orDefault, List.isEmpty_eq_false_iff.mpr some]
  rfl

theorem Host.shown_ne_nil (host : Host) : host.shown ≠ [] := by
  cases host with
  | name text some unreserved => exact some
  | address groups eight small =>
    intro empty
    have nothing : Url.ipv6Groups? [] = none := by
      show (Url.readGroups ⟨none, []⟩ []).bind _ = none
      rw [Url.readGroups_nil]
      rfl
    have read := Url.ipv6Groups?_ipv6Text eight small
    rw [shown] at empty
    rw [empty, nothing] at read
    cases read

theorem text_value (host : Host) : host.value.text = host.shown := by
  cases host <;> rfl

/-- A name without slashes is what is left of its path without the slashes at its start. -/
theorem databaseOfPath_pathText (database? : Option DatabaseName) :
    ConnectionParams.orDefault (ConnectionParams.databaseOfPath (pathText database?)) "postgres" =
      database?.elim "postgres" fun database => String.ofList database.text := by
  cases database? with
  | none => rfl
  | some database =>
    have noSlash : '/' ∉ database.text := fun member =>
      absurd (database.unreserved '/' member) (by decide)
    have whole : ConnectionParams.databaseOfPath (pathText (some database)) = database.text := by
      refine (List.dropWhile_cons_of_pos (by decide)).trans ?_
      refine List.dropWhile_eq_self_iff.mpr fun some slash => noSlash ?_
      rw [← beq_iff_eq.mp slash]
      exact List.getElem_mem some
    rw [whole, orDefault_of_ne_nil database.some]
    rfl

/-- Reading a connection string gives its parts back, and defaults for those that were left out. -/
theorem parse_text (parts : Parts) :
    ConnectionParams.parse (String.ofList parts.text) = .ok parts.params := by
  rw [ConnectionParams.parse, String.toList_ofList, ofText_text]
  refine congrArg Except.ok ?_
  have host : ConnectionParams.orDefault (((parts.location?.elim {} Location.authority).host?.map
      Url.Host.text).getD []) "localhost" = parts.params.host := by
    rw [Parts.params]
    cases parts.location? with
    | none => rfl
    | some location =>
      show ConnectionParams.orDefault location.host.value.text "localhost" = _
      rw [text_value, orDefault_of_ne_nil location.host.shown_ne_nil]
      rfl
  have port : (parts.location?.elim {} Location.authority).port?.getD 5432 = parts.params.port := by
    rw [Parts.params]
    cases parts.location? with
    | none => rfl
    | some location =>
      show (location.port?.map Fin.val).getD 5432 = location.port?.elim 5432 Fin.val
      cases location.port? <;> rfl
  have user : ConnectionParams.orDefault (parts.location?.elim {} Location.authority).user
      "postgres" = parts.params.user := by
    rw [Parts.params, Parts.login?]
    cases parts.location? with
    | none => rfl
    | some location =>
      show ConnectionParams.orDefault (location.login?.elim [] (·.user)) "postgres" =
        location.login?.elim "postgres" _
      cases location.login? with
      | none => rfl
      | some login =>
        show ConnectionParams.orDefault login.user "postgres" = if login.user = [] then _ else _
        by_cases nobody : login.user = []
        · rw [if_pos nobody, nobody]
          rfl
        · rw [if_neg nobody, orDefault_of_ne_nil nobody]
  have password : String.ofList
      ((parts.location?.elim {} Location.authority).password?.getD []) = parts.params.password := by
    rw [Parts.params, Parts.login?]
    cases parts.location? with
    | none => rfl
    | some location =>
      show String.ofList (((location.login?.bind (·.password?)).filter (! ·.isEmpty)).getD []) =
        (location.login?.bind (·.password?)).elim "" String.ofList
      cases location.login?.bind (·.password?) with
      | none => rfl
      | some password => cases password <;> rfl
  have database := databaseOfPath_pathText parts.database?
  simp only [ConnectionParams.ofAddress, ConnectionParams.defaultHost, ConnectionParams.defaultPort,
    ConnectionParams.defaultUser, ConnectionParams.defaultDatabase, host, port, user, password,
    database]
  rfl

end Seedbed.Dsn

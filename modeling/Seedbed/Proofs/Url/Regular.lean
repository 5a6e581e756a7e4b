import Seedbed.Proofs.Url.Authority
import Seedbed.Proofs.Url.Charset

/-!
# Addresses that are read

Whatever text an address is read from, under a scheme of any kind, its authority has an encoded user
name, a host that is one, and a port of sixteen bits, and its path ends before a query or a fragment
(`regular_of_ofText`). Each way to read an address has its lemma.
-/

namespace Seedbed.Url

variable {text : List Char} {kind : SchemeKind}

/-! ## Authorities -/

/-- What holds of an authority that was read: its user name is encoded, its host is one, and its
port fits into sixteen bits. -/
structure Authority.Regular (authority : Authority) : Prop where
  user : ∀ c ∈ authority.user, isUserinfoEncoded c = false
  host : ∀ host, authority.host? = some host → IsSeemly host.text
  port : ∀ port, authority.port? = some port → port < 65536

theorem Authority.regular_empty : Authority.Regular {} := ⟨nofun, nofun, nofun⟩

theorem user_splitUserinfo (info : List Char) :
    ∃ name, (splitUserinfo info).1 = percentEncode isUserinfoEncoded name := by
  unfold splitUserinfo
  split
  · exact ⟨_, rfl⟩
  · exact ⟨_, rfl⟩

theorem lt_of_portOfDigits {digits : List Char} {port : Nat}
    (read : portOfDigits kind digits = .ok (some port)) : port < 65536 := by
  unfold portOfDigits at read
  split_ifs at read
  · cases read
  · split at read
    · cases read
    · split_ifs at read with large standing
      · cases read
      · cases read
        omega

theorem eq_of_authorityOf {info? : Option (List Char)} {location rest : List Char}
    {authority : Authority} (read : authorityOf kind info? location = .ok (authority, rest)) :
    authority.user = (loginOf info?).1 ∧
      hostOfText kind (splitHost false location).1 = .ok authority.host? ∧
      ∃ digits, portOfDigits kind digits = .ok authority.port? := by
  unfold authorityOf at read
  generalize splitHost false location = parts at read ⊢
  obtain ⟨hostText, portText⟩ := parts
  simp only at read ⊢
  generalize portText.tail.takeWhile Char.isDigit = digits at read
  generalize portText.tail.drop digits.length = left at read
  cases host : hostOfText kind hostText with
  | error fault => cases info? <;> simp [host, bind, Except.bind] at read
  | ok host? =>
    simp only [host, bind, Except.bind, throw, throwThe, MonadExceptOf.throw] at read
    cases port : portOfDigits kind digits with
    | error fault => cases info? <;> simp only [port] at read <;> split_ifs at read
    | ok port? =>
      -- what is left after the port decides whether there is an authority, not which
      suffices same : authority.user = (loginOf info?).1 ∧ authority.host? = host? ∧
          authority.port? = port? by
        obtain ⟨user, rfl, rfl⟩ := same
        exact ⟨user, rfl, digits, port⟩
      simp only [port, pure, Except.pure] at read
      cases info? <;> cases left <;> simp only at read <;> split_ifs at read <;> cases read <;>
        exact ⟨rfl, rfl, rfl⟩

theorem regular_of_authorityOf {info? : Option (List Char)} {location rest : List Char}
    {authority : Authority} (read : authorityOf kind info? location = .ok (authority, rest)) :
    authority.Regular := by
  obtain ⟨user, host, digits, port⟩ := eq_of_authorityOf read
  refine ⟨fun c member => ?_, fun _ some => ?_, fun _ some => ?_⟩
  · rw [user] at member
    cases info? with
    | none => cases member
    | some info =>
      obtain ⟨name, encoded⟩ := user_splitUserinfo info
      rw [loginOf, encoded] at member
      exact not_isUserinfoEncoded_of_mem member
  · exact isSeemly_of_hostOfText (some ▸ host)
  · exact lt_of_portOfDigits (some ▸ port)

theorem regular_of_readAuthority {rest : List Char} {authority : Authority}
    (read : readAuthority kind text = .ok (authority, rest)) : authority.Regular := by
  obtain ⟨⟨inside, outside⟩, cut⟩ : ∃ parts, text.span (! endsAuthority kind ·) = parts := ⟨_, rfl⟩
  obtain ⟨⟨info?, location⟩, before⟩ : ∃ parts, splitLastAt inside = parts := ⟨_, rfl⟩
  rw [readAuthority_eq cut before] at read
  split_ifs at read
  obtain ⟨⟨found, left⟩, located, same⟩ := map_eq_ok_iff.mp read
  cases same
  exact regular_of_authorityOf located

/-! ## Addresses -/

/-- What holds of an address that was read: its authority is regular, and its path ends before a
query or a fragment. -/
structure Address.Regular (address : Address) : Prop where
  authority : address.authority.Regular
  path : ∀ c ∈ address.path, c ≠ '?' ∧ c ≠ '#'

theorem IsPath.plain (isPath : IsPath text) (c : Char) (member : c ∈ text) : c ≠ '?' ∧ c ≠ '#' := by
  have kept := isPath c member
  constructor <;> rintro rfl <;> exact absurd kept (by decide)

theorem plain_opaquePath (text : List Char) :
    ∀ c ∈ opaquePath (beforeQuery text), c ≠ '?' ∧ c ≠ '#' := by
  intro c member
  rcases mem_percentEncode member with ⟨inside, -⟩ | escape
  · simpa using List.mem_takeWhile_imp inside
  · constructor <;> rintro rfl <;> exact absurd escape (by decide)

theorem regular_of_afterSlashes {scheme : List Char} {address : Address}
    (read : afterSlashes scheme kind text = .ok address) : address.Regular := by
  unfold afterSlashes at read
  cases found : readAuthority kind text with
  | error fault => simp [found, bind, Except.bind] at read
  | ok parts =>
    rw [found] at read
    cases read
    exact ⟨regular_of_readAuthority found, (isPath_pathAfterHost _).plain⟩

theorem isPath_root : IsPath ['/'] := isPath_nil.cons (by decide)

theorem regular_of_plainAddress {scheme : List Char} {address : Address}
    (read : plainAddress scheme text = .ok address) : address.Regular := by
  unfold plainAddress at read
  split at read
  · exact regular_of_afterSlashes read
  · rename_i rest _
    cases read
    have path := @isPath_appendPath .plain ['/'] isPath_root (beforeQuery rest)
    exact ⟨Authority.regular_empty, path.plain⟩
  · cases read
    exact ⟨Authority.regular_empty, plain_opaquePath _⟩

theorem isSeemly_of_fileHost {rest : List Char} {host : Host}
    (read : fileHost text = .ok (some host, rest)) : IsSeemly host.text := by
  unfold fileHost at read
  generalize text.span (! endsAuthority .file ·) = parts at read
  obtain ⟨hostText, after⟩ := parts
  simp only at read
  split_ifs at read with drive empty
  · cases read
  · cases read
  cases special : specialHost (unbroken hostText) with
  | error fault => simp [special, bind, Except.bind] at read
  | ok found =>
    simp only [special, bind, Except.bind, pure, Except.pure] at read
    split_ifs at read
    · cases read
    · cases read
      exact isSeemly_specialHost special

theorem regular_of_fileAddress {scheme : List Char} {address : Address}
    (read : fileAddress scheme text = .ok address) : address.Regular := by
  unfold fileAddress at read
  split at read
  · rename_i rest slashes
    cases found : fileHost rest with
    | error fault => simp [found, bind, Except.bind] at read
    | ok parts =>
      obtain ⟨host?, rest⟩ := parts
      simp only [found, bind, Except.bind, pure, Except.pure] at read
      cases host? with
      | none =>
        cases read
        have path := @isPath_appendPath .file ['/'] isPath_root (beforeQuery rest)
        exact ⟨Authority.regular_empty, path.plain⟩
      | some host =>
        cases read
        refine ⟨⟨nofun, fun kept same => ?_, nofun⟩, IsPath.plain (isPath_pathAfterHost _)⟩
        obtain ⟨-, same⟩ := Option.ite_none_left_eq_some.mp same
        exact Option.some.inj same ▸ isSeemly_of_fileHost found
  · cases read
    have root : IsPath (if (skipSlash? .file text).isSome then [] else ['/']) := by
      split
      · exact isPath_nil
      · exact isPath_root
    have path := @isPath_appendPath .file _ root (beforeQuery text)
    exact ⟨Authority.regular_empty, path.plain⟩

theorem regular_of_ofText {address : Address} (read : Address.ofText text = .ok address) :
    address.Regular := by
  unfold Address.ofText at read
  simp only at read
  split at read
  · cases read
  · split at read
    · exact regular_of_plainAddress read
    · exact regular_of_fileAddress read
    · exact regular_of_afterSlashes read

end Seedbed.Url

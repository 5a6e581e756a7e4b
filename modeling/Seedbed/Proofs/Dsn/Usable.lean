import Seedbed.Dsn
import Seedbed.Proofs.Url.Regular

/-!
# Parameters that can be used

Every connection string that is an address gives parameters that a connection can be opened with
(`parse_usable`). What an address leaves out has a default, and what it does not leave out holds
nothing that would stand around it in an address.
-/

namespace Seedbed.Dsn

/-- Whether parameters can be used: none of the host, the user and the database is empty, nothing in
them would end them in an address, and a connection is opened with them as they are. -/
structure Usable (params : ConnectionParams) : Prop where
  host : params.host ≠ ""
  user : params.user ≠ ""
  database : params.database ≠ ""
  relative : params.database.toList.head? ≠ some '/'
  hostChars : ∀ c ∈ params.host.toList, c ∉ ['[', ']', '/', '?', '#', '@']
  userChars : ∀ c ∈ params.user.toList, c ∉ [':', '/', '?', '#', '@']
  databaseChars : ∀ c ∈ params.database.toList, c ∉ ['?', '#']
  port : params.port < 65536
  options : params.connectOptions.host = params.host ∧ params.connectOptions.port = params.port ∧
    params.connectOptions.user = params.user ∧ params.connectOptions.database = params.database

/-- What holds of a text that is not empty and of its default holds of what stands for it. -/
theorem orDefault_of {p : String → Prop} {text : List Char} {standing : String}
    (own : text ≠ [] → p (String.ofList text)) (other : p standing) :
    p (ConnectionParams.orDefault text standing) := by
  unfold ConnectionParams.orDefault
  split
  · exact other
  · exact own (by simp_all)

theorem orDefault_ne_empty {text : List Char} {standing : String} (some : standing ≠ "") :
    ConnectionParams.orDefault text standing ≠ "" :=
  orDefault_of (p := (· ≠ "")) (fun own empty => own (by simpa using empty)) some

theorem orDefault_chars {p : Char → Prop} [DecidablePred p] {text : List Char} {standing : String}
    (own : ∀ c ∈ text, p c) (other : standing.toList.all p) :
    ∀ c ∈ (ConnectionParams.orDefault text standing).toList, p c := by
  refine orDefault_of (p := fun text => ∀ c ∈ text.toList, p c) (fun _ => by simpa using own) ?_
  simpa using other

theorem head?_databaseOfPath (path : List Char) :
    (ConnectionParams.databaseOfPath path).head? ≠ some '/' := by
  intro first
  have stops := List.head?_dropWhile_not (· == '/') path
  rw [show path.dropWhile (· == '/') = ConnectionParams.databaseOfPath path from rfl,
    first] at stops
  simp at stops

/-- A regular address gives parameters that can be used. -/
theorem usable_ofAddress {address : Url.Address} (regular : address.Regular) :
    Usable (ConnectionParams.ofAddress address) where
  host := orDefault_ne_empty (by decide)
  user := orDefault_ne_empty (by decide)
  database := orDefault_ne_empty (by decide)
  relative := by
    refine orDefault_of (p := fun text => text.toList.head? ≠ some '/') (fun _ => ?_) (by decide)
    rw [String.toList_ofList]
    exact head?_databaseOfPath address.path
  hostChars := by
    refine orDefault_chars (fun c member => ?_) (by decide)
    cases host : address.authority.host? with
    | none => simp [host] at member
    | some found =>
      rw [host] at member
      exact (regular.authority.host found host).plain c member
  userChars := by
    refine orDefault_chars (fun c member mark => ?_) (by decide)
    have kept := regular.authority.user c member
    simp only [List.mem_cons, List.not_mem_nil, or_false] at mark
    rcases mark with rfl | rfl | rfl | rfl | rfl <;> exact absurd kept (by decide)
  databaseChars := by
    refine orDefault_chars (fun c member => ?_) (by decide)
    have plain := regular.path c (List.dropWhile_subset _ member)
    simpa using plain
  port := by
    show address.authority.port?.getD 5432 < 65536
    cases port : address.authority.port? with
    | none => decide
    | some port' => exact regular.authority.port port' port
  options := ⟨rfl, rfl, rfl, rfl⟩

/-- A connection string is refused just if it is no address, and any other can be used. -/
theorem parse_usable (dsn : String) :
    match Url.Address.ofText dsn.toList with
    | .error fault => ConnectionParams.parse dsn = .error fault
    | .ok _ => ∃ params, ConnectionParams.parse dsn = .ok params ∧ Usable params := by
  cases read : Url.Address.ofText dsn.toList with
  | error fault => exact ConnectionParams.parse_eq_error_iff.mpr read
  | ok address =>
    refine ⟨.ofAddress address, ?_, usable_ofAddress (Url.regular_of_ofText read)⟩
    rw [ConnectionParams.parse, read]
    rfl

end Seedbed.Dsn

import Seedbed.Proofs.Database.Reading
import Seedbed.Proofs.Database.Transaction
import Seedbed.Proofs.Program.History
import Seedbed.Proofs.Ulid.Reading
import Seedbed.User.Table

/-!
# Rows of users, read back

The insertion of a user makes one row, and the row is the user: every column holds the field of its
name (`cells?_insertedRow`), and from the columns the user is read again (`ofCells?_cells`). So
users whose rows are equal are equal (`parameters_injective`). That row is all that is sent, and a
server that accepts it keeps it, in the transaction if there is one (`stores_insert`).
-/

namespace Seedbed.User

open Database

/-- The columns of a user's row. -/
def cells (user : User) : List (String × Parameter) :=
  [("id", .text user.id.text),
    ("username", .text user.username),
    ("email", .text user.email),
    ("password_hash", .text user.passwordHash),
    ("display_name", .text user.displayName),
    ("badges", .int4 user.badges),
    ("status_text", .text user.statusText),
    ("status_presence", .text user.statusPresence),
    ("profile_content", .text user.profileContent),
    ("profile_background_id", user.profileBackgroundId?.elim .null .text),
    ("privileged", .bool user.privileged),
    ("suspended_until", user.suspendedUntil?.elim .null .int8),
    ("created_at", .int8 user.createdAt),
    ("updated_at", .int8 user.updatedAt),
    ("verified", .bool user.verified)]

/-- The row that the insertion of a user makes. -/
def insertedRow (user : User) : Database.Row := ⟨insertion.text, user.parameters⟩

theorem plain_insertion : insertion.Plain where
  table := Insertion.isName_of_all (by decide) (by decide)
  columns := by
    have each : ∀ column ∈ columns,
        column ≠ "" ∧ column.toList.all fun c => c.isAlphanum || c == '_' := by
      decide
    exact fun column member => Insertion.isName_of_all (each column member).1 (each column member).2

theorem cells?_insertedRow (user : User) : user.insertedRow.cells? = some user.cells :=
  Row.cells?_inOrder plain_insertion rfl

theorem orNull?_elim_text (value : Option String) :
    orNull? textOf? (value.elim .null .text) = some value := by
  cases value with
  | none => rfl
  | some value => rfl

theorem orNull?_elim_int8 (value : Option Int) :
    orNull? int8Of? (value.elim .null .int8) = some value := by
  cases value with
  | none => rfl
  | some value => rfl

/-- A user is read from its columns. -/
theorem ofCells?_cells (user : User) : ofCells? user.cells = some user := by
  have id : ((user.cells.lookup "id").bind textOf?).bind Ulid.ofText? = some user.id :=
    Ulid.ofText?_text user.id
  have background : (user.cells.lookup "profile_background_id").bind (orNull? textOf?) =
      some user.profileBackgroundId? := orNull?_elim_text user.profileBackgroundId?
  have suspended : (user.cells.lookup "suspended_until").bind (orNull? int8Of?) =
      some user.suspendedUntil? := orNull?_elim_int8 user.suspendedUntil?
  simp only [ofCells?, id, background, suspended]
  rfl

/-- Users whose columns have the same values are the same. -/
theorem parameters_injective : Function.Injective parameters := by
  intro user other same
  have rows : user.insertedRow = other.insertedRow := congrArg (Database.Row.mk insertion.text) same
  have columns := cells?_insertedRow user
  rw [rows, cells?_insertedRow] at columns
  have read := ofCells?_cells user
  rw [← Option.some.inj columns, ofCells?_cells] at read
  exact (Option.some.inj read).symm

/-! ## On a server -/

/-- How a server answers errands over a connection. -/
def served (connection : Nat) : (errand : Errand) → Server → Option (errand.Answer × Server)
  | .send statement, server => some (server.answer connection statement)
  | .say _, server => some ((), server)

/-- What the insertion of a user over a connection comes to. -/
structure Stores (user : User) (connection : Nat) (server : Server)
    (outcome : Program.Outcome (Except Failure Nat)) (after : Server) : Prop where
  /-- The row is what is sent, and nothing else, whatever the answer is, -/
  sent : ∀ {σ : Type} (perform : (errand : Errand) → σ → Option (errand.Answer × σ)) (state : σ),
    user.insert.asked perform state = [.send (.insert user.insertedRow.text user.insertedRow.values)]
  /-- and it succeeds wherever the server accepts that. -/
  accepted : ∀ rows,
    server.behaviour.verdict (server.record.map Entry.statement)
        (.insert user.insertedRow.text user.insertedRow.values) = .accept rows →
      (server.session connection = .idle ∨
        ∃ earlier, server.session connection = .transaction earlier) →
        outcome = .done (.ok rows)
  /-- If it succeeds outside of a transaction, then the server keeps one more row, -/
  kept : ∀ rows, outcome = .done (.ok rows) → server.session connection = .idle →
    after.committed = server.committed ++ [user.insertedRow] ∧
      after.session connection = .idle
  /-- and in a transaction one more is pending. -/
  pending : ∀ rows earlier, outcome = .done (.ok rows) →
    server.session connection = .transaction earlier →
      after.session connection = .transaction (earlier ++ [user.insertedRow]) ∧
        after.committed = server.committed
  /-- There is no success elsewhere. -/
  elsewhere : ∀ rows, outcome = .done (.ok rows) → server.session connection = .idle ∨
    ∃ earlier, server.session connection = .transaction earlier
  /-- That row has fifteen columns of different names, each with the field of its name, -/
  columns : user.insertedRow.cells? = some user.cells ∧ user.cells.length = 15 ∧
    (user.cells.map Prod.fst).Nodup
  id : user.id.text.length = 26 ∧ Ulid.ofText? user.id.text = some user.id
  /-- and read by these names it is the user. -/
  readBack : ofCells? user.cells = some user
  /-- No other user has the same parameters. -/
  only : ∀ other : User, other.parameters = user.parameters → other = user

theorem asked_insert {σ : Type} (perform : (errand : Errand) → σ → Option (errand.Answer × σ))
    (user : User) (state : σ) :
    user.insert.asked perform state = [.send user.insertStatement] := by
  have program : user.insert =
      .ask (Errand.send user.insertStatement) fun reply => .done (reply.mapError .database) := rfl
  rw [program, Program.asked]
  cases perform (.send user.insertStatement) state <;> rfl

theorem run_insert (user : User) (connection : Nat) (server : Server) :
    user.insert.run (served connection) server =
      (.done ((server.answer connection user.insertStatement).1.mapError .database),
        (server.answer connection user.insertStatement).2) := rfl

/-- What is acknowledged was carried out in a session that is there and listens. -/
theorem carried_of_insert {user : User} {connection : Nat} {server : Server} {rows : Nat}
    (done : (user.insert.run (served connection) server).1 = .done (.ok rows)) :
    server.session connection ≠ .lost ∧
      (server.session connection).bars user.insertStatement = false ∧
      ∃ affected, (user.insert.run (served connection) server).2 =
        (server.carryOut connection user.insertStatement affected).2 := by
  rw [run_insert] at done ⊢
  have acknowledged := Program.Outcome.done.inj done
  have reaction := Server.answer_reaction server connection user.insertStatement
  generalize server.answer connection user.insertStatement = answered at acknowledged reaction
  cases reaction with
  | deaf gone => cases acknowledged
  | refused there message => cases acknowledged
  | cut there => cases acknowledged
  | done there heard affected => exact ⟨there, heard, affected, rfl⟩
  | unheard there heard => cases acknowledged

/-- Whatever the user and the server. -/
theorem stores_insert (user : User) (connection : Nat) (server : Server) :
    Stores user connection server (user.insert.run (served connection) server).1
      (user.insert.run (served connection) server).2 where
  sent perform := asked_insert perform user
  accepted := by
    intro rows accepts ready
    have reply : (server.answer connection user.insertStatement).1 = .ok rows :=
      Server.answer_insert_of_accept ready accepts
    rw [run_insert, reply]
    rfl
  kept := by
    intro rows done idle
    obtain ⟨there, -, affected, same⟩ := carried_of_insert done
    rw [same, Server.committed_carryOut, Server.session_carryOut there, idle]
    exact ⟨rfl, rfl⟩
  pending := by
    intro rows earlier done inside
    obtain ⟨there, -, affected, same⟩ := carried_of_insert done
    rw [same, Server.committed_carryOut, Server.session_carryOut there, inside]
    exact ⟨rfl, List.append_nil _⟩
  elsewhere := by
    intro rows done
    obtain ⟨there, heard, -⟩ := carried_of_insert done
    cases session : server.session connection with
    | idle => exact .inl rfl
    | transaction earlier => exact .inr ⟨earlier, rfl⟩
    | spoilt =>
      rw [session] at heard
      cases heard
    | lost => exact absurd session there
  columns := by
    have different : columns.Nodup := by decide
    exact ⟨cells?_insertedRow user, rfl, different⟩
  id := ⟨user.id.length_text, user.id.ofText?_text⟩
  readBack := ofCells?_cells user
  only _ same := parameters_injective same

/-- A user with a background and without an end to a suspension. -/
def visitor : User where
  id := .ofParts 5 7
  username := "ann"
  email := "ann@here"
  passwordHash := "hash"
  displayName := "Ann Here"
  badges := 3
  statusText := "away"
  statusPresence := "online"
  profileContent := "none"
  profileBackgroundId? := some "sky"
  privileged := false
  createdAt := 5
  updatedAt := 6
  verified := true

/-- A server with a single session, in a transaction with a row of another user. -/
def attending : Server where
  behaviour := .obliging
  sessions := [.transaction [insertedRow default]]

theorem stores_insert_visitor :
    (visitor.insert.run (served 0) attending).1 = .done (.ok 1) ∧
      (visitor.insert.run (served 0) attending).2.session 0 =
        .transaction [insertedRow default, visitor.insertedRow] ∧
      visitor.insertedRow.cells? = some visitor.cells ∧ ofCells? visitor.cells = some visitor := by
  have stores := stores_insert visitor 0 attending
  have accepted := stores.accepted 1 rfl (.inr ⟨_, rfl⟩)
  exact ⟨accepted, (stores.pending 1 _ accepted rfl).1, stores.columns.1, stores.readBack⟩

end Seedbed.User

import Seedbed.Database.Fault
import Seedbed.Database.Statement
import Seedbed.Dsn

/-!
# Servers

A database server as its clients see it. Rows that are inserted in a transaction are pending until
its commit; a statement that fails in a transaction spoils it, and the commit of a spoilt
transaction is answered without an error and keeps nothing. Whether a connection or a statement is
accepted is up to the server's behaviour, which knows all that was asked before.
-/

namespace Seedbed.Database

/-- What a server makes of a statement. -/
inductive Verdict where
  | accept (rows : Nat)
  | refuse (message : String)
  /-- The server closes the connection instead. -/
  | hangUp
  /-- It is carried out, but the server closes the connection instead of answering. -/
  | fallSilent
  deriving DecidableEq, Repr, Inhabited

structure Behaviour where
  /-- The fault met on connecting, after some connections have been opened. -/
  connect : ConnectionParams → (opened : Nat) → Option Fault
  /-- What becomes of a statement, after others; the latest is the first of them. -/
  verdict : (earlier : List Statement) → Statement → Verdict
  /-- Whether a connection that has waited is still there when it is wanted, after some statements
  and after some connections have been opened. -/
  keeps : (earlier : List Statement) → (opened : Nat) → (connection : Nat) → Bool :=
    fun _ _ _ => true

/-- The behaviour of a place from which no server can be reached. -/
def Behaviour.absent : Behaviour where
  connect := fun _ _ => some .unreachable
  verdict := fun _ _ => .hangUp

/-- The behaviour of a server that opens every connection and carries out every statement. -/
def Behaviour.obliging : Behaviour where
  connect := fun _ _ => none
  verdict := fun _ _ => .accept 1

structure Row where
  /-- The text of the statement that inserted it. -/
  text : String
  values : List Parameter
  deriving DecidableEq, Repr, Inhabited

/-- The state of a connection on the server's side. -/
inductive Session where
  | idle
  /-- In a transaction, with the rows inserted in it. -/
  | transaction (pending : List Row)
  /-- In a transaction in which a statement failed. -/
  | spoilt
  | lost
  deriving DecidableEq, Repr, Inhabited

def Session.afterFailure : Session → Session
  | .transaction _ => .spoilt
  | session => session

/-- The session after a statement that was carried out, the rows that it makes final, and the number
of rows that it affects. -/
def Session.afterSuccess (statement : Statement) (rows : Nat) : Session → Session × List Row × Nat
  | .lost => (.lost, [], 0)
  | .idle =>
    match statement with
    | .begin => (.transaction [], [], 0)
    | .commit | .rollback => (.idle, [], 0)
    | .insert text values => (.idle, [⟨text, values⟩], rows)
    | .query _ => (.idle, [], rows)
  | .transaction pending =>
    match statement with
    | .begin => (.transaction pending, [], 0)
    | .commit => (.idle, pending, 0)
    | .rollback => (.idle, [], 0)
    | .insert text values => (.transaction (pending ++ [⟨text, values⟩]), [], rows)
    | .query _ => (.transaction pending, [], rows)
  | .spoilt =>
    match statement with
    | .commit | .rollback => (.idle, [], 0)
    | _ => (.spoilt, [], 0)

/-- Whether a session has no ear for a statement: a spoilt transaction can only be ended. -/
def Session.bars (session : Session) (statement : Statement) : Bool :=
  session = .spoilt && !statement.endsTransaction

structure Entry where
  connection : Nat
  statement : Statement
  failed : Bool
  deriving DecidableEq, Repr, Inhabited

structure Server where
  behaviour : Behaviour
  /-- The sessions of the connections opened so far, by their numbers. -/
  sessions : List Session := []
  /-- The statements so far, the latest first. -/
  record : List Entry := []
  /-- The rows that are kept for good. -/
  committed : List Row := []

namespace Server

def opened (server : Server) : Nat := server.sessions.length

def session (server : Server) (connection : Nat) : Session :=
  server.sessions.getD connection .lost

def setSession (server : Server) (connection : Nat) (session : Session) : Server :=
  { server with sessions := server.sessions.set connection session }

theorem session_setSession {server : Server} {connection : Nat} (session : Session)
    (isOpen : connection < server.opened) :
    (server.setSession connection session).session connection = session := by
  have inRange : connection < server.sessions.length := isOpen
  simp [setSession, Server.session, List.getD, inRange]

theorem session_setSession_ne {server : Server} {connection other : Nat} (session : Session)
    (different : connection ≠ other) :
    (server.setSession connection session).session other = server.session other := by
  simp [setSession, Server.session, List.getD, List.getElem?_set_ne different]

def connect (server : Server) (params : ConnectionParams) : Except Fault Nat × Server :=
  match server.behaviour.connect params server.opened with
  | some fault => (.error fault, server)
  | none => (.ok server.opened, { server with sessions := server.sessions ++ [.idle] })

/-- Closes a connection; what is pending on it is discarded. -/
def disconnect (server : Server) (connection : Nat) : Server := server.setSession connection .lost

def spoiltMessage : String :=
  "current transaction is aborted, commands ignored until end of transaction block"

def note (server : Server) (connection : Nat) (statement : Statement) (failed : Bool) : Server :=
  { server with record := ⟨connection, statement, failed⟩ :: server.record }

def refuse (server : Server) (connection : Nat) (statement : Statement) (message : String) :
    Except Fault Nat × Server :=
  (.error (.refused message), (server.note connection statement true).setSession connection
    (server.session connection).afterFailure)

def carryOut (server : Server) (connection : Nat) (statement : Statement) (rows : Nat) :
    Nat × Server :=
  let (session, final, affected) := (server.session connection).afterSuccess statement rows
  let server := (server.note connection statement false).setSession connection session
  (affected, { server with committed := server.committed ++ final })

/-- Answers a statement: how many rows it affects, or why it failed. -/
def answer (server : Server) (connection : Nat) (statement : Statement) :
    Except Fault Nat × Server :=
  let session := server.session connection
  if session = .lost then (.error .hungUp, server)
  else
    match server.behaviour.verdict (server.record.map Entry.statement) statement with
    | .hangUp =>
      (.error .hungUp, (server.note connection statement true).disconnect connection)
    | .refuse message =>
      server.refuse connection statement (if session.bars statement then spoiltMessage else message)
    | .accept rows =>
      if session.bars statement then server.refuse connection statement spoiltMessage
      else
        let (affected, server) := server.carryOut connection statement rows
        (.ok affected, server)
    | .fallSilent =>
      if session.bars statement then
        (.error .hungUp, (server.note connection statement true).disconnect connection)
      else
        (.error .hungUp, (server.carryOut connection statement 0).2.disconnect connection)

/-- Whether a connection that has waited is still there; one that is not is closed. -/
def ping (server : Server) (connection : Nat) : Bool × Server :=
  if server.session connection ≠ .lost &&
      server.behaviour.keeps (server.record.map Entry.statement) server.opened connection then
    (true, server)
  else (false, server.disconnect connection)

end Server
end Seedbed.Database

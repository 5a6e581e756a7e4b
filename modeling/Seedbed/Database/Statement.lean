/-!
# Statements

What a client sends to a database: the marks of a transaction, the insertion of a row with the
values of its columns, and any other statement as a text.
-/

namespace Seedbed.Database

inductive Parameter where
  | text (value : String)
  /-- A whole number of four octets. -/
  | int4 (value : Int)
  /-- A whole number of eight octets. -/
  | int8 (value : Int)
  | bool (value : Bool)
  | null
  deriving DecidableEq, Repr, Inhabited

inductive Statement where
  | begin
  | commit
  | rollback
  /-- The insertion of a row: the statement's text, and a value for every placeholder in it. -/
  | insert (text : String) (parameters : List Parameter)
  | query (text : String)
  deriving DecidableEq, Repr, Inhabited

inductive Statement.Kind where
  | begin
  | commit
  | rollback
  | insert
  | query
  deriving DecidableEq, Repr, Inhabited

namespace Statement

def kind : Statement → Kind
  | .begin => .begin
  | .commit => .commit
  | .rollback => .rollback
  | .insert _ _ => .insert
  | .query _ => .query

def text : Statement → String
  | .begin => "BEGIN"
  | .commit => "COMMIT"
  | .rollback => "ROLLBACK"
  | .insert text _ => text
  | .query text => text

def endsTransaction (statement : Statement) : Bool :=
  statement.kind == .commit || statement.kind == .rollback

end Statement
end Seedbed.Database

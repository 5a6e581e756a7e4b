import Seedbed.Database.Statement

/-!
# Insertions

The insertion of a row into a table: the columns by name, and for each of them the number of the
parameter that goes there. The text is what a server is sent; the parameters go along with it.
-/

namespace Seedbed.Database

structure Insertion where
  table : String
  columns : List String
  /-- For each column the number of its parameter; the first parameter has the number one. -/
  placeholders : List Nat
  deriving DecidableEq, Repr

namespace Insertion

/-- An insertion whose columns take the parameters in order. -/
def inOrder (table : String) (columns : List String) : Insertion where
  table
  columns
  placeholders := List.range' 1 columns.length

def listed (texts : List String) : String := ", ".intercalate texts

def text (insertion : Insertion) : String :=
  "INSERT INTO " ++ insertion.table ++ " ( " ++ listed insertion.columns ++ " ) VALUES ( " ++
    listed (insertion.placeholders.map fun number => "$" ++ toString number) ++ " )"

def parameter? (parameters : List Parameter) : (number : Nat) → Option Parameter
  | 0 => none
  | index + 1 => parameters[index]?

/-- The columns of the row that is made of some parameters, each with its value; none if a
placeholder has no parameter. -/
def cells? (insertion : Insertion) (parameters : List Parameter) :
    Option (List (String × Parameter)) :=
  (insertion.columns.zip insertion.placeholders).mapM fun (column, number) =>
    (parameter? parameters number).map (column, ·)

end Insertion
end Seedbed.Database

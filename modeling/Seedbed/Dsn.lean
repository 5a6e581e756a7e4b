import Seedbed.Text.Quoted
import Seedbed.Url.Basic

/-!
# Connection strings

A connection string is an address whose parts tell where a database is and as whom to open it. Every
part that is absent or empty has a default, and a query or fragment says nothing. What a connection
string shows about itself never includes the password.
-/

namespace Seedbed

/-- Where a database is, and as whom to open it. -/
structure ConnectionParams where
  host : String
  port : Nat
  user : String
  password : String
  database : String
  deriving DecidableEq, Repr

namespace ConnectionParams

/-! ## Defaults -/

def defaultHost : String := "localhost"
def defaultPort : Nat := 5432
def defaultUser : String := "postgres"
def defaultDatabase : String := "postgres"

/-- A text, or what stands for it if it is empty. -/
def orDefault (text : List Char) (standing : String) : String :=
  if text.isEmpty then standing else String.ofList text

/-! ## Reading -/

/-- The database that a path names: the path without its leading slashes. -/
def databaseOfPath (path : List Char) : List Char := path.dropWhile (· == '/')

def ofAddress (address : Url.Address) : ConnectionParams where
  host := orDefault ((address.authority.host?.map Url.Host.text).getD []) defaultHost
  port := address.authority.port?.getD defaultPort
  user := orDefault address.authority.user defaultUser
  password := String.ofList (address.authority.password?.getD [])
  database := orDefault (databaseOfPath address.path) defaultDatabase

/-- The parameters that a connection string gives; a string that is no address gives none. -/
def parse (dsn : String) : Except Url.Fault ConnectionParams :=
  (Url.Address.ofText dsn.toList).map ofAddress

theorem parse_eq_error_iff {dsn : String} {fault : Url.Fault} :
    parse dsn = .error fault ↔ Url.Address.ofText dsn.toList = .error fault := by
  unfold parse
  cases Url.Address.ofText dsn.toList <;> simp [Except.map]

/-! ## Using -/

/-- What a connection is opened with: the parameters, the password only if it is not empty. -/
structure ConnectOptions where
  host : String
  port : Nat
  user : String
  password? : Option String
  database : String
  deriving DecidableEq, Repr

def connectOptions (params : ConnectionParams) : ConnectOptions where
  host := params.host
  port := params.port
  user := params.user
  password? := if params.password.isEmpty then none else some params.password
  database := params.database

/-- The password that a server sees: the one given, else the one that the environment supplies. -/
def ConnectOptions.passwordSent (options : ConnectOptions) (ambient : Option String) : String :=
  options.password?.getD (ambient.getD "")

/-! ## Showing -/

/-- The parameters as they are shown, with the password hidden. -/
def redacted (params : ConnectionParams) : String :=
  "ConnectionParams \x7b host: " ++ Text.quoted params.host ++
    ", port: " ++ toString params.port ++
    ", user: " ++ Text.quoted params.user ++
    ", password: " ++ Text.quoted "<redacted>" ++
    ", database: " ++ Text.quoted params.database ++ " \x7d"

end ConnectionParams
end Seedbed

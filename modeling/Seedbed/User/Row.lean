import Seedbed.Database.Insertion
import Seedbed.User.Basic

/-!
# Rows of users

How a user is written into the table of users, a value for every column, and how a user is read from
the columns of a row.
-/

namespace Seedbed.User

open Database (Insertion Parameter Statement)

def columns : List String :=
  ["id", "username", "email", "password_hash", "display_name", "badges", "status_text",
    "status_presence", "profile_content", "profile_background_id", "privileged",
    "suspended_until", "created_at", "updated_at", "verified"]

def insertion : Insertion := Insertion.inOrder "users" columns

def parameters (user : User) : List Parameter :=
  [.text user.id.text,
    .text user.username,
    .text user.email,
    .text user.passwordHash,
    .text user.displayName,
    .int4 user.badges,
    .text user.statusText,
    .text user.statusPresence,
    .text user.profileContent,
    user.profileBackgroundId?.elim .null .text,
    .bool user.privileged,
    user.suspendedUntil?.elim .null .int8,
    .int8 user.createdAt,
    .int8 user.updatedAt,
    .bool user.verified]

def insertStatement (user : User) : Statement := .insert insertion.text user.parameters

/-! ## Reading -/

def textOf? : Parameter → Option String
  | .text value => some value
  | _ => none

def int4Of? : Parameter → Option Int
  | .int4 value => some value
  | _ => none

def int8Of? : Parameter → Option Int
  | .int8 value => some value
  | _ => none

def boolOf? : Parameter → Option Bool
  | .bool value => some value
  | _ => none

/-- What a column holds that may be empty. -/
def orNull? (read? : Parameter → Option α) : Parameter → Option (Option α)
  | .null => some none
  | value => (read? value).map some

/-- The user in a row, whose columns are found by their names. -/
def ofCells? (cells : List (String × Parameter)) : Option User := do
  let column? {α : Type} (name : String) (read? : Parameter → Option α) : Option α :=
    (cells.lookup name).bind read?
  return {
    id := ← (column? "id" textOf?).bind Ulid.ofText?
    username := ← column? "username" textOf?
    email := ← column? "email" textOf?
    passwordHash := ← column? "password_hash" textOf?
    displayName := ← column? "display_name" textOf?
    badges := ← column? "badges" int4Of?
    statusText := ← column? "status_text" textOf?
    statusPresence := ← column? "status_presence" textOf?
    profileContent := ← column? "profile_content" textOf?
    profileBackgroundId? := ← column? "profile_background_id" (orNull? textOf?)
    privileged := ← column? "privileged" boolOf?
    suspendedUntil? := ← column? "suspended_until" (orNull? int8Of?)
    createdAt := ← column? "created_at" int8Of?
    updatedAt := ← column? "updated_at" int8Of?
    verified := ← column? "verified" boolOf? }

end Seedbed.User

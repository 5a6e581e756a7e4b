import Seedbed.Config.Settings
import Seedbed.Yaml.Decode

/-!
# Settings in documents

Settings are written as a document with the entries `database`, `production` and `seed`. Only the
connection string must be there; all else has defaults. Other entries are passed over.
-/

namespace Seedbed
open Yaml

namespace Config

structure DatabaseDraft where
  postgres? : Option String := none

structure SeedDraft where
  users? : Option Nat := none
  password? : Option String := none
  maxUniqueAttempts? : Option Nat := none
  rngSeed? : Option (Option Nat) := none

/-- All settings as they are read. -/
structure Draft where
  postgres? : Option String := none
  production? : Option Bool := none
  seed? : Option SeedSettings := none

/-- A field that holds a value of one kind. -/
def field (name : String) (get : δ → Option α) (set : δ → α → δ) (decode : Decoder α) :
    RecordField δ where
  name
  isSet draft := (get draft).isSome
  read draft document path node := (decode document path node).map (set draft)

def databaseRecord : Record DatabaseDraft String where
  title := "DatabaseConfig"
  blank := {}
  fields :=
    [field "postgres" DatabaseDraft.postgres? (fun draft value => { draft with postgres? := value })
      decodeText]
  finish draft := draft.postgres?.elim (.error "postgres") .ok

/-- The settings of a draft, with the defaults of those left out. -/
def SeedDraft.finish (draft : SeedDraft) : SeedSettings :=
  let standard : SeedSettings := {}
  { users := draft.users?.getD standard.users
    password := draft.password?.getD standard.password
    maxUniqueAttempts := draft.maxUniqueAttempts?.getD standard.maxUniqueAttempts
    rngSeed? := draft.rngSeed?.getD standard.rngSeed? }

def seedRecord : Record SeedDraft SeedSettings where
  title := "SeedSettings"
  blank := {}
  fields :=
    [field "users" SeedDraft.users? (fun draft value => { draft with users? := value })
      (decodeNatural "usize"),
     field "password" SeedDraft.password? (fun draft value => { draft with password? := value })
      decodeText,
     field "max_unique_attempts" SeedDraft.maxUniqueAttempts?
      (fun draft value => { draft with maxUniqueAttempts? := value }) (decodeNatural "usize"),
     field "rng_seed" SeedDraft.rngSeed? (fun draft value => { draft with rngSeed? := some value })
      (decodeOption (decodeNatural "u64"))]
  finish draft := .ok draft.finish

def record : Record Draft Config where
  title := "SeederConfig"
  blank := {}
  fields :=
    [field "database" Draft.postgres? (fun draft value => { draft with postgres? := value })
      databaseRecord.decode,
     field "production" Draft.production? (fun draft value => { draft with production? := value })
      decodeBoolean,
     field "seed" Draft.seed? (fun draft value => { draft with seed? := value }) seedRecord.decode]
  finish draft :=
    match draft.postgres? with
    | none => .error "database"
    | some postgres =>
      .ok { postgres
            production := draft.production?.getD false
            seed := draft.seed?.getD {} }

def ofText (text : String) : Except DecodeFault Config :=
  (Document.ofText text.toList).decode record.decode

end Config
end Seedbed

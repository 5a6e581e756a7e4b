import Seedbed.Yaml.Document
import Seedbed.Yaml.Value

/-!
# Decoding

How values of a wanted type are taken from the nodes of a document. Aliases are followed. The first
thing that does not fit, in the order of the document, is the fault; it is told with its place and
the keys that lead to it. Where the document is cut off its own fault is met.
-/

namespace Seedbed.Yaml

/-! ## Faults -/

inductive Mismatch where
  | type (found : Found) (wanted : String)
  /-- A scalar is not written as its tag says. -/
  | value (text : List Char) (wanted : String)
  | duplicate (field : String)
  | missing (field : String)
  deriving DecidableEq, Repr

def Mismatch.message : Mismatch → String
  | .type found wanted => "invalid type: " ++ found.text ++ ", expected " ++ wanted
  | .value text wanted =>
    "invalid value: string " ++ Text.quoted (String.ofList text) ++ ", expected " ++ wanted
  | .duplicate field => "duplicate field \x60" ++ field ++ "\x60"
  | .missing field => "missing field \x60" ++ field ++ "\x60"

/-- The keys that lead to a node, innermost first. -/
abbrev Path := List String

def Path.text (path : Path) : String := ".".intercalate path.reverse

/-- What stands in a path for a key that is an alias. -/
def aliasKey : String := "?"

inductive DecodeFault where
  /-- Something does not fit; where, is not known before the mapping around it is left. -/
  | mismatch (what : Mismatch) (at? : Option (Path × Place))
  | document (fault : DocumentFault)
  deriving DecidableEq, Repr

def DecodeFault.message : DecodeFault → String
  | .mismatch what (some (path, place)) =>
    (if path.isEmpty then "" else path.text ++ ": ") ++ what.message ++ place.suffix
  | .mismatch what none => what.message
  | .document fault => fault.message

/-- A fault with a place, if it has none yet. -/
def DecodeFault.placed (path : Path) (place : Place) : DecodeFault → DecodeFault
  | .mismatch what none => .mismatch what (some (path, place))
  | fault => fault

/-! ## Nodes -/

/-- A way to take a value from a node, which some keys lead to. -/
abbrev Decoder (α : Type) := Document → Path → Node → Except DecodeFault α

namespace Document

/-- The node that a node stands for. -/
def follow (document : Document) : Node → Node
  | .alias _ target => document.nodeAt target
  | node => node

def cutFault (document : Document) : DecodeFault :=
  .document (document.fault?.getD (.form { problem := .endOfStream }))

def scalarMismatch (scalar : Scalar) (wanted : String) : Mismatch :=
  match scalar.found with
  | .ok found => .type found wanted
  | .error tag => .value scalar.text tag.wanted

def mismatched (document : Document) (path : Path) (wanted : String) : Node → DecodeFault
  | .scalar place scalar => .mismatch (scalarMismatch scalar wanted) (some (path, place))
  | .sequence place _ => .mismatch (.type .sequence wanted) (some (path, place))
  | .mapping place _ => .mismatch (.type .map wanted) (some (path, place))
  | .void place => .mismatch (.type .unit wanted) (some (path, place))
  | .alias place _ => .mismatch (.type .unit wanted) (some (path, place))
  | .cut => document.cutFault

end Document

def decodeScalar (wanted : String) (read? : Scalar → Option α) : Decoder α :=
  fun document path node =>
    let node := document.follow node
    match node with
    | .scalar _ scalar =>
      match read? scalar with
      | some value => .ok value
      | none => .error (document.mismatched path wanted node)
    | _ => .error (document.mismatched path wanted node)

/-- Takes a text: any scalar, as it is. -/
def decodeText : Decoder String :=
  decodeScalar "a string" fun scalar => some (String.ofList scalar.text)

def decodeBoolean : Decoder Bool :=
  decodeScalar "a boolean" fun scalar =>
    if scalar.converts .boolean then boolean? scalar.text else none

/-- Takes a natural number of one word. -/
def decodeNatural (wanted : String) : Decoder Nat :=
  decodeScalar wanted fun scalar => if scalar.converts .integer then natural? scalar.text else none

/-- Takes a value that may be nothing. A scalar with another tag than that of nothing is something,
and so is one between quotes. -/
def decodeOption (decode : Decoder α) : Decoder (Option α) :=
  fun document path node =>
    let node := document.follow node
    match node with
    | .scalar _ scalar =>
      if scalar.style != .plain then (decode document path node).map some
      else if scalar.standardTag? = some .null then
        if isNull scalar.text then .ok none
        else .error (.mismatch (.value scalar.text "null") none)
      else if scalar.tag?.isNone && (scalar.text.isEmpty || isNull scalar.text) then .ok none
      else (decode document path node).map some
    | .void _ => .ok none
    | node => (decode document path node).map some

/-! ## Records -/

structure RecordField (δ : Type) where
  name : String
  isSet : δ → Bool
  read : δ → Decoder δ

structure Record (δ α : Type) where
  /-- What a message calls the record. -/
  title : String
  blank : δ
  fields : List (RecordField δ)
  /-- The record of a draft; a field that must not be left out may be missing. -/
  finish : δ → Except String α

namespace Record

/-- The text of a key, and what stands for it in paths. -/
def readKey (document : Document) (path : Path) (key : Node) :
    Except DecodeFault (String × String) :=
  match document.follow key with
  | .scalar _ scalar =>
    let text := String.ofList scalar.text
    .ok (text, match key with
      | .scalar _ _ => text
      | _ => aliasKey)
  | node => .error (document.mismatched path "field identifier" node)

/-- Reads an entry into a draft. A value whose key is unknown is passed over, if it is whole. -/
def readEntry (record : Record δ α) (document : Document) (path : Path) (draft : δ)
    (entry : Node × Node) : Except DecodeFault δ := do
  let (name, step) ← readKey document path entry.1
  match record.fields.find? (·.name == name) with
  | some field =>
    if field.isSet draft then throw (.mismatch (.duplicate name) none)
    field.read draft document (step :: path) entry.2
  | none => if entry.2.isWhole then return draft else throw document.cutFault

def readEntries (record : Record δ α) (document : Document) (path : Path)
    (entries : List (Node × Node)) : Except DecodeFault α := do
  let draft ← entries.foldlM (record.readEntry document path) record.blank
  match record.finish draft with
  | .ok value => return value
  | .error field => throw (.mismatch (.missing field) none)

/-- Takes a record from a node: a mapping, or nothing at all, which counts as an empty one. -/
def decode (record : Record δ α) : Decoder α :=
  fun document path node =>
    let node := document.follow node
    let wanted := "struct " ++ record.title
    let read (place : Place) (entries : List (Node × Node)) : Except DecodeFault α :=
      (record.readEntries document path entries).mapError (.placed path place)
    match node with
    | .mapping place entries => read place entries
    | .void place => read place []
    | .scalar place scalar =>
      if scalar.text.isEmpty && scalar.style = .plain then read place []
      else .error (document.mismatched path wanted node)
    | node => .error (document.mismatched path wanted node)

end Record

def Document.decode (document : Document) (decoder : Decoder α) : Except DecodeFault α := do
  let value ← decoder document [] document.root
  match document.fault? with
  | some fault => throw (.document fault)
  | none => if document.goesOn then throw (.document .severalDocuments) else return value

end Seedbed.Yaml

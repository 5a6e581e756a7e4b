import Seedbed.Yaml.Event
import Seedbed.Yaml.Node

/-!
# Documents

A document is a sequence of items up to its end or its first fault. An alias leads to the item that
its name was last given to before it; a name that was given to no item is a fault. A text without a
document counts as a document that says nothing.
-/

namespace Seedbed.Yaml

/-! ## Characters -/

def isAllowed (c : Char) : Bool :=
  c == '\t' || c == '\n' || c == '\r' || c == '\x85' || (' ' ≤ c && c ≤ '~') ||
    ('\xa0' ≤ c && c ≤ '\ufffd') || 0x10000 ≤ c.toNat

/-- How many octets of a text are looked at together. -/
def chunkSize : Nat := 16384

/-- Looks for a character that no document may hold, chunk by chunk: the characters of the chunks
before its own, and how many octets come before it. `room` octets are left in the chunk, whose
characters so far are `pending`, backwards; those of the chunks before are `whole`. -/
def findControl (room offset : Nat) (whole pending : List Char) :
    List Char → Option (List Char × Nat)
  | [] => none
  | c :: rest =>
    let size := c.utf8Size
    let fits := size ≤ room
    let (room, whole, pending) :=
      if fits then (room, whole, pending) else (chunkSize, pending ++ whole, [])
    if isAllowed c then findControl (room - size) (offset + size) whole (c :: pending) rest
    else some (whole.reverse, offset)

def TokenStream.ofText (text : List Char) : TokenStream :=
  match findControl chunkSize 0 [] [] text with
  | none => TokenStream.read none (text.length + 1) { cursor := { rest := text } }
  | some (before, offset) =>
    let fault : Fault := { problem := .controlCharacter, offset }
    if before.isEmpty then { tokens := [], fault? := some fault }
    else TokenStream.read (some fault) (before.length + 1) { cursor := { rest := before } }

/-! ## Items -/

inductive DocumentFault where
  | form (fault : Fault)
  | unknownAnchor (place : Place)
  | severalDocuments
  deriving DecidableEq, Repr

def DocumentFault.message : DocumentFault → String
  | .form fault => fault.message
  | .unknownAnchor place => "unknown anchor" ++ place.suffix
  | .severalDocuments =>
    "deserializing from YAML containing more than one document is not supported"

/-- Names given to items. A name stands for a label, and a label for the item that got it last. -/
structure Anchors where
  labels : List (List Char × Nat) := []
  /-- The number of the item with every label, the latest first. -/
  targets : List (Nat × Nat) := []
  deriving Repr

/-- Gives a name to an item. The label is the number of names so far, so a name that is given twice
shares its second label with the next new name. -/
def Anchors.give (anchors : Anchors) (name : List Char) (item : Nat) : Anchors :=
  let label := anchors.labels.length
  { labels := (name, label) :: anchors.labels.filter (·.1 != name)
    targets := (label, item) :: anchors.targets }

structure Document where
  /-- The items, up to the end or the fault. -/
  items : List Item
  /-- Why the items end early, if they do. -/
  fault? : Option DocumentFault := none
  /-- Whether the text goes on after the document. -/
  goesOn : Bool := false
  deriving Repr

namespace Document

structure Draft where
  /-- The items so far, backwards; an alias leads to a label. -/
  items : List Item := []
  anchors : Anchors := {}

def Draft.add (draft : Draft) (item : Item) (name? : Option (List Char) := none) : Draft where
  items := item :: draft.items
  anchors := match name? with
    | some name => draft.anchors.give name draft.items.length
    | none => draft.anchors

/-- The document of a draft: aliases lead to items. -/
def Draft.finish (draft : Draft) (fault? : Option DocumentFault) (goesOn : Bool) : Document where
  items := draft.items.reverse.map fun item =>
    match item with
    | .alias place label => .alias place ((draft.anchors.targets.lookup label).getD 0)
    | item => item
  fault?
  goesOn

/-- Whether only the end of the text is left. -/
def isLast (events : List (Event × Place)) : Bool :=
  match events with
  | (.streamEnd, _) :: _ => true
  | _ => false

def collect (fault? : Option Fault) : Draft → List (Event × Place) → Document
  | draft, [] => draft.finish (fault?.map .form) false
  | draft, (event, place) :: rest =>
    match event with
    | .documentStart => collect fault? draft rest
    | .documentEnd => draft.finish none !(isLast rest)
    | .streamEnd =>
      (if draft.items.isEmpty then draft.add (.void place) else draft).finish none false
    | .alias name =>
      match draft.anchors.labels.lookup name with
      | some label => collect fault? (draft.add (.alias place label)) rest
      | none => draft.finish (some (.unknownAnchor place)) false
    | .scalar properties text style =>
      collect fault?
        (draft.add (.scalar place { tag? := properties.tag?, text, style }) properties.anchor?) rest
    | .sequenceStart properties =>
      collect fault? (draft.add (.sequenceStart place) properties.anchor?) rest
    | .sequenceEnd => collect fault? (draft.add .sequenceEnd) rest
    | .mappingStart properties =>
      collect fault? (draft.add (.mappingStart place) properties.anchor?) rest
    | .mappingEnd => collect fault? (draft.add .mappingEnd) rest

def ofText (text : List Char) : Document :=
  let stream := EventStream.ofTokens (TokenStream.ofText text)
  collect stream.fault? {} stream.events

def nodeAt (document : Document) (item : Nat) : Node := Node.ofItems (document.items.drop item)

def root (document : Document) : Node := document.nodeAt 0

end Document
end Seedbed.Yaml

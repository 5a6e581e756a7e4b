import Seedbed.Yaml.Cursor
import Seedbed.Yaml.Fault
import Seedbed.Yaml.Token

/-!
# Layout

What reading tokens has to remember: which block collections are open, and where a colon would turn
something already read into a key. Such a pending key keeps its token and all later ones waiting,
because a key mark may have to be put before it. It is given up at the end of its line, and after
1024 octets.
-/

namespace Seedbed.Yaml

/-- Something read that a colon would turn into a key. -/
structure PendingKey where
  /-- Whether nothing else can stand here. -/
  required : Bool
  /-- How many tokens come before. -/
  number : Nat
  place : Place
  deriving DecidableEq, Repr

def keySpan : Nat := 1024

/-- Whether a pending key cannot be a key any more, at a place after it. -/
def PendingKey.isStale (key : PendingKey) (place : Place) : Bool :=
  key.place.line < place.line || key.place.index + keySpan < place.index

structure Layout where
  cursor : Cursor
  /-- The columns of the open block collections, innermost first. -/
  columns : List Nat := []
  /-- The pending key of every open flow collection, innermost first, and that outside of them. -/
  keys : List (Option PendingKey) := [none]
  /-- Whether a key may start here without a mark. -/
  keyAllowed : Bool := true
  /-- How many tokens have been handed on. -/
  settled : Nat := 0
  /-- The tokens that have not. -/
  waiting : List Token := []
  deriving Repr

namespace Layout

def place (layout : Layout) : Place := layout.cursor.place

def inFlow (layout : Layout) : Bool := 1 < layout.keys.length

def count (layout : Layout) : Nat := layout.settled + layout.waiting.length

def put (layout : Layout) (token : Token) : Layout :=
  { layout with waiting := layout.waiting ++ [token] }

/-- Adds a token so that `number` tokens come before it. -/
def putAt (layout : Layout) (number : Nat) (token : Token) : Layout :=
  let (before, after) := layout.waiting.splitAt (number - layout.settled)
  { layout with waiting := before ++ token :: after }

/-! ## Pending keys -/

/-- Gives up a pending key; a required one must not be given up. -/
def giveUp (place : Place) : Option PendingKey → Except Fault Unit
  | some key =>
    if key.required then .error (.during .simpleKey key.place .noSimpleKeyValue place) else .ok ()
  | none => .ok ()

def dropKey (layout : Layout) : Except Fault Layout := do
  giveUp layout.place (layout.keys.head?.getD none)
  return { layout with keys := none :: layout.keys.tail }

/-- Gives up every pending key that is stale, the outermost first. -/
def dropStale (layout : Layout) : Except Fault Layout := do
  let keys ← layout.keys.reverse.mapM fun key => do
    if (key.map (·.isStale layout.place)).getD false then
      giveUp layout.place key
      return none
    else return key
  return { layout with keys := keys.reverse }

/-- Notes that a key may start here. It is required if a block mapping demands one here. -/
def saveKey (layout : Layout) : Except Fault Layout := do
  if !layout.keyAllowed then return layout
  let layout ← layout.dropKey
  let required := !layout.inFlow && layout.columns.head? == some layout.place.column
  return { layout with
    keys := some ⟨required, layout.count, layout.place⟩ :: layout.keys.tail }

/-- The number of tokens before the first pending key; all of them if there is none. -/
def firstPending (layout : Layout) : Nat :=
  (layout.keys.filterMap (·.map PendingKey.number)).foldl min layout.count

/-- Hands on the tokens before the first pending key. -/
def settle (layout : Layout) : List Token × Layout :=
  let (ready, waiting) := layout.waiting.splitAt (layout.firstPending - layout.settled)
  (ready, { layout with waiting, settled := layout.settled + ready.length })

/-! ## Block collections -/

def isDeeper (layout : Layout) (column : Nat) : Bool :=
  (layout.columns.head?.map (decide <| · < column)).getD true

/-- Opens a block collection at a column if that is further in. Its token has `number` tokens before
it. -/
def openBlock (layout : Layout) (kind : Token.Kind) (place : Place) (number : Nat) : Layout :=
  if layout.inFlow || !layout.isDeeper place.column then layout
  else { layout.putAt number (.between kind place) with columns := place.column :: layout.columns }

/-- Closes the block collections for which `closes` holds, innermost first. -/
def closeBlocks (layout : Layout) (closes : Nat → Bool) : Layout :=
  if layout.inFlow then layout
  else
    { layout with
      columns := layout.columns.dropWhile closes
      waiting := layout.waiting ++
        (layout.columns.takeWhile closes).map fun _ => .between .blockEnd layout.place }

/-! ## Flow collections -/

def openFlow (layout : Layout) : Layout := { layout with keys := none :: layout.keys }

def closeFlow (layout : Layout) : Layout :=
  if layout.inFlow then { layout with keys := layout.keys.tail } else layout

end Layout
end Seedbed.Yaml

import Seedbed.Yaml.Token

/-!
# Nodes

The tree that the items of a document stand for. Where a document has a fault the tree is cut off: a
cut stands for what would come next, and every collection around it ends there.
-/

namespace Seedbed.Yaml

structure Scalar where
  tag? : Option (List Char) := none
  text : List Char
  style : ScalarStyle := .plain
  deriving DecidableEq, Repr, Inhabited

/-- A scalar, an alias, or an end of a collection. -/
inductive Item where
  /-- What stands for a document that is not there. -/
  | void (place : Place)
  /-- A reference to the node that starts with another item. -/
  | alias (place : Place) (target : Nat)
  | scalar (place : Place) (content : Scalar)
  | sequenceStart (place : Place)
  | sequenceEnd
  | mappingStart (place : Place)
  | mappingEnd
  deriving DecidableEq, Repr, Inhabited

inductive Node where
  | void (place : Place)
  | alias (place : Place) (target : Nat)
  | scalar (place : Place) (content : Scalar)
  | sequence (place : Place) (nodes : List Node)
  | mapping (place : Place) (entries : List (Node × Node))
  /-- Where the document is cut off. -/
  | cut
  deriving Repr, Inhabited

namespace Node

/-- Joins every key with the value after it. -/
def pairs : List Node → List (Node × Node)
  | [] => []
  | [key] => [(key, .cut)]
  | key :: value :: rest => (key, value) :: pairs rest

/-- Puts a collection of the innermost nodes before those around it. A collection that nothing is
around is cut off: its nodes stay in it alone. -/
def enclose (collect : List Node → Node) : List (List Node) → List (List Node)
  | [] => [[collect []]]
  | [nodes] => [[collect nodes]]
  | nodes :: around :: rest => (collect nodes :: around) :: rest

def addTo (node : Node) : List (List Node) → List (List Node)
  | [] => [[node]]
  | nodes :: rest => (node :: nodes) :: rest

/-- Reads an item before those whose nodes are known, by the collections that end after it. -/
def absorb : Item → List (List Node) → List (List Node)
  | .void place => addTo (.void place)
  | .alias place target => addTo (.alias place target)
  | .scalar place content => addTo (.scalar place content)
  | .sequenceStart place => enclose (.sequence place)
  | .mappingStart place => enclose fun nodes => .mapping place (pairs nodes)
  | .sequenceEnd | .mappingEnd => ([] :: ·)

def ofItems (items : List Item) : Node :=
  (((items.foldr absorb [[.cut]]).headD []).head?).getD .cut

mutual
/-- Whether nothing of a node is cut off. -/
def isWhole : Node → Bool
  | .cut => false
  | .sequence _ nodes => areWhole nodes
  | .mapping _ entries => entriesAreWhole entries
  | _ => true

def areWhole : List Node → Bool
  | [] => true
  | node :: rest => isWhole node && areWhole rest

def entriesAreWhole : List (Node × Node) → Bool
  | [] => true
  | (key, value) :: rest => isWhole key && isWhole value && entriesAreWhole rest
end

end Node
end Seedbed.Yaml

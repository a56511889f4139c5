import TreeQuery.Graph
import TreeQuery.Text.Shorten
import TreeQuery.Value.Printer

/-!
# Outlines

An outline is the tree of all occurrences below a handle, each with a label for
display.  A map entry is an occurrence of its own between the map and the key
and value.
-/

namespace TreeQuery

/-- How an occurrence relates to the one it lies in. -/
inductive Role where
  | root
  | key
  | value
  /-- A position in a collection, a map or the children without a name. -/
  | index (position : Nat)
  | field (name : String)
  deriving DecidableEq, Repr, Inhabited

/-- What an occurrence shows. -/
inductive NodeKind where
  | map
  | entry
  | list
  | set
  | tuple
  | constructor
  | node
  | string
  | number
  | boolean
  | location
  deriving DecidableEq, Repr, Inhabited

/-- What is shown of an occurrence, apart from its children. -/
structure Caption where
  target : Target
  kind : NodeKind
  name : String
  role : Role
  deriving DecidableEq, Repr, Inhabited

inductive Outline where
  | node (caption : Caption) (children : List Outline)
  deriving Repr, Inhabited

/-- The label of a collection with `count` members. -/
def countLabel (word : String) (count : Nat) : String :=
  word ++ " (" ++ toString count ++ ")"

def quotedLabel (plain : String) (limit : Nat) : String :=
  "\"" ++ shorten plain limit ++ "\""

namespace Node

/-- The kind and the label of a canonical value. -/
def describe (limit : Nat) : Node → NodeKind × String
  | map entries => (.map, countLabel "map" entries.length)
  | list items => (.list, countLabel "list" items.length)
  | set items => (.set, countLabel "set" items.length)
  | tuple items => (.tuple, countLabel "tuple" items.length)
  | constr .identifier name _ _ => (.constructor, shorten name limit)
  | constr .node name _ _ => (.node, quotedLabel name limit)
  | string text => (.string, quotedLabel text.plain limit)
  | number digits => (.number, shorten digits limit)
  | boolean truth => (.boolean, if truth then "true" else "false")
  | location place => (.location, shorten place.text limit)

/-- The children of a canonical value with their roles, in order. -/
def parts : Node → List (Target × Role)
  | map entries =>
      entries.mapIdx fun position id => (.entry id, .index position)
  | list items | set items | tuple items =>
      items.mapIdx fun position id => (.value id, .index position)
  | constr _ _ positional named =>
      positional.mapIdx (fun position id => (.value id, .index position)) ++
        named.map fun (name, id) => (.value id, .field name)
  | string _ | number _ | boolean _ | location _ => []

end Node

namespace Graph

/-- The kind and the label of a target, if it is in the graph. -/
def describe? (graph : Graph) (limit : Nat) :
    Target → Option (NodeKind × String)
  | .value id => (graph.value? id).map (Node.describe limit)
  | .entry id => (graph.entry? id).map fun _ => (.entry, "entry")

/-- The children of a target with their roles. -/
def parts (graph : Graph) : Target → List (Target × Role)
  | .value id =>
      match graph.value? id with
      | some node => node.parts
      | none => []
  | .entry id =>
      match graph.entry? id with
      | some entry => [(.value entry.key, .key), (.value entry.value, .value)]
      | none => []

/-- The outline of a target, cut off `depth` levels down.  What is not in the
graph is left out. -/
def outlineWithin (graph : Graph) (limit : Nat) :
    (depth : Nat) → Target × Role → Option Outline
  | 0, _ => none
  | depth + 1, (target, role) =>
      (graph.describe? limit target).map fun (kind, name) =>
        .node { target, kind, name, role }
          ((graph.parts target).filterMap (graph.outlineWithin limit depth))

/-- The outline of a target. -/
def outline? (graph : Graph) (limit : Nat) (target : Target × Role) :
    Option Outline :=
  graph.outlineWithin limit graph.size target

end Graph

end TreeQuery

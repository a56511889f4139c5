import TreeQuery.Graph
import TreeQuery.Value.Printer

/-!
# Expanding handles

A handle stands for a tree in which shared parts are repeated wherever they are
used.  Children lie in earlier slots, so no tree is deeper than the graph is
large.
-/

namespace TreeQuery

namespace Graph

/-- The tree of a handle, if its leaves are at most `depth` levels down. -/
def expandWithin (graph : Graph) : (depth : Nat) → ValueId → Option Value
  | 0, _ => none
  | depth + 1, id =>
      let expand := graph.expandWithin depth
      let expandEntry (id : EntryId) : Option (Value × Value) :=
        (graph.entry? id).bind fun entry =>
          (expand entry.key).bind fun key =>
            (expand entry.value).map fun value => (key, value)
      let expandField (field : String × ValueId) : Option (String × Value) :=
        (expand field.2).map fun value => (field.1, value)
      (graph.value? id).bind fun node =>
        match node with
        | .map entries => (entries.mapM expandEntry).map .map
        | .list items => (items.mapM expand).map .list
        | .set items => (items.mapM expand).map .set
        | .tuple items => (items.mapM expand).map .tuple
        | .constr kind name positional named =>
            (positional.mapM expand).bind fun positional =>
              (named.mapM expandField).map fun named =>
                .constr kind name positional named
        | .string text => some (.string text)
        | .number digits => some (.number digits)
        | .boolean truth => some (.boolean truth)
        | .location place => some (.location place)

/-- The tree that a handle stands for. -/
def expand? (graph : Graph) (id : ValueId) : Option Value :=
  graph.expandWithin graph.size id

/-- The written form of the tree that a handle stands for. -/
def text? (graph : Graph) (id : ValueId) : Option String :=
  (graph.expand? id).map Value.text

/-- The written form of an entry: its key, a colon and its value. -/
def entryText? (graph : Graph) (id : EntryId) : Option String :=
  (graph.entry? id).bind fun entry =>
    (graph.text? entry.key).bind fun key =>
      (graph.text? entry.value).map fun value => key ++ ": " ++ value

def targetText? (graph : Graph) : Target → Option String
  | .value id => graph.text? id
  | .entry id => graph.entryText? id

end Graph

end TreeQuery

import Std.Data.HashMap
import TreeQuery.Graph

/-!
# Interning values

Children are interned before what holds them, so two slots are equal values
exactly when they are equal slots, up to the order of named children.  A table
finds the slot under a key in which the named children are sorted; the slot
itself keeps the order in which it was first met.
-/

namespace TreeQuery

/-- The order of named children in a key: by name, then by child. -/
def fieldLe (left right : String × ValueId) : Bool :=
  left.1 < right.1 || (left.1 == right.1 && left.2.index ≤ right.2.index)

/-- The slot with its named children sorted. -/
def Slot.key : Slot → Slot
  | .value (.constr kind name positional named) =>
      .value (.constr kind name positional (named.mergeSort fieldLe))
  | slot => slot

/-- A graph that is being built, and where each of its slots is found. -/
structure Interner where
  graph : Graph
  table : Std.HashMap Slot UInt32

namespace Interner

def empty : Interner :=
  ⟨.empty, {}⟩

/-- The index of the slot with this key, which is added if there is none. -/
def insert (interner : Interner) (slot : Slot) : UInt32 × Interner :=
  match interner.table[slot.key]? with
  | some index => (index, interner)
  | none =>
      let index := interner.graph.nextIndex
      (index,
        { graph := interner.graph.push slot
          table := interner.table.insert slot.key index })

def insertNode (interner : Interner) (node : Node) : ValueId × Interner :=
  let (index, interner) := interner.insert (.value node)
  (⟨index⟩, interner)

def insertEntry (interner : Interner) (entry : Entry) : EntryId × Interner :=
  let (index, interner) := interner.insert (.entry entry)
  (⟨index⟩, interner)

mutual

/-- The handle of a value, after adding what is missing of it. -/
def intern (interner : Interner) : Value → ValueId × Interner
  | .map entries =>
      let (entries, interner) := interner.internEntries entries
      interner.insertNode (.map entries)
  | .list items =>
      let (items, interner) := interner.internItems items
      interner.insertNode (.list items)
  | .set items =>
      let (items, interner) := interner.internItems items
      interner.insertNode (.set items)
  | .tuple items =>
      let (items, interner) := interner.internItems items
      interner.insertNode (.tuple items)
  | .constr kind name positional named =>
      let (positional, interner) := interner.internItems positional
      let (named, interner) := interner.internFields named
      interner.insertNode (.constr kind name positional named)
  | .string text => interner.insertNode (.string text)
  | .number digits => interner.insertNode (.number digits)
  | .boolean truth => interner.insertNode (.boolean truth)
  | .location place => interner.insertNode (.location place)

def internItems (interner : Interner) :
    List Value → List ValueId × Interner
  | [] => ([], interner)
  | value :: values =>
      let (id, interner) := interner.intern value
      let (ids, interner) := interner.internItems values
      (id :: ids, interner)

/-- The handle of a map entry, after adding what is missing of it. -/
def internEntry (interner : Interner) : Value × Value → EntryId × Interner
  | (key, value) =>
      let (key, interner) := interner.intern key
      let (value, interner) := interner.intern value
      interner.insertEntry ⟨key, value⟩

def internEntries (interner : Interner) :
    List (Value × Value) → List EntryId × Interner
  | [] => ([], interner)
  | entry :: entries =>
      let (id, interner) := interner.internEntry entry
      let (ids, interner) := interner.internEntries entries
      (id :: ids, interner)

def internFields (interner : Interner) :
    List (String × Value) → List (String × ValueId) × Interner
  | [] => ([], interner)
  | (name, value) :: fields =>
      let (id, interner) := interner.intern value
      let (fields, interner) := interner.internFields fields
      ((name, id) :: fields, interner)

end

end Interner

/-- The graph of one value, and the value's handle. -/
def Value.canonical (value : Value) : ValueId × Graph :=
  let (root, interner) := Interner.empty.intern value
  (root, interner.graph)

end TreeQuery

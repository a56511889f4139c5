import TreeQuery.Value

/-!
# Canonical graphs

A graph is a list of slots that only grows.  Values and map entries share one
sequence of handles; the children of a slot are handles of earlier slots, so a
part that occurs in several places is stored once.
-/

namespace TreeQuery

/-- A handle of a canonical value. -/
structure ValueId where
  index : UInt32
  deriving DecidableEq, Hashable, Repr, Inhabited

/-- A handle of a canonical map entry. -/
structure EntryId where
  index : UInt32
  deriving DecidableEq, Hashable, Repr, Inhabited

instance : ToString ValueId := ⟨fun id => "#" ++ toString id.index.toNat⟩

/-- What a record stands for. -/
inductive Target where
  | value (id : ValueId)
  | entry (id : EntryId)
  deriving DecidableEq, Hashable, Repr, Inhabited

/-- A canonical map entry. -/
structure Entry where
  key : ValueId
  value : ValueId
  deriving DecidableEq, Hashable, Repr, Inhabited

/-- A canonical value: a value with handles in place of its children. -/
inductive Node where
  | map (entries : List EntryId)
  | list (items : List ValueId)
  | set (items : List ValueId)
  | tuple (items : List ValueId)
  | constr (kind : ConstructorKind) (name : String) (positional : List ValueId)
      (named : List (String × ValueId))
  | string (text : Text)
  | number (digits : String)
  | boolean (truth : Bool)
  | location (place : Location)
  deriving DecidableEq, Hashable, Repr, Inhabited

inductive Slot where
  | value (node : Node)
  | entry (entry : Entry)
  deriving DecidableEq, Hashable, Repr, Inhabited

structure Graph where
  slots : Array Slot
  deriving Repr, Inhabited

namespace Graph

def empty : Graph :=
  ⟨#[]⟩

/-- The number of values and entries. -/
def size (graph : Graph) : Nat :=
  graph.slots.size

/-- The value of a handle.  A handle of an entry or of another graph may have
none. -/
def value? (graph : Graph) (id : ValueId) : Option Node :=
  match graph.slots[id.index.toNat]? with
  | some (.value node) => some node
  | _ => none

/-- The entry of a handle. -/
def entry? (graph : Graph) (id : EntryId) : Option Entry :=
  match graph.slots[id.index.toNat]? with
  | some (.entry entry) => some entry
  | _ => none

/-- The index that the next slot will have. -/
def nextIndex (graph : Graph) : UInt32 :=
  UInt32.ofNat graph.size

def push (graph : Graph) (slot : Slot) : Graph :=
  ⟨graph.slots.push slot⟩

/-- The handles of all values, in order. -/
def valueIds (graph : Graph) : List ValueId :=
  (List.range graph.size).filterMap fun position =>
    let id : ValueId := ⟨UInt32.ofNat position⟩
    match graph.slots[position]? with
    | some (.value _) => some id
    | _ => none

end Graph

end TreeQuery

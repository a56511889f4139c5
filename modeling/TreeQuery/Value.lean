import TreeQuery.Text

/-!
# Values

A value is a finite tree: scalars at the leaves, collections, maps and
constructors above them.  `Value.equal` compares two trees piece by piece and
decides their equality.
-/

namespace TreeQuery

/-- A constructor is named by an identifier; a node by any quoted text. -/
inductive ConstructorKind where
  | identifier
  | node
  deriving DecidableEq, Hashable, Repr, Inhabited

/-- Offsets and line and column bounds of a piece of a source. -/
structure SourceSpan where
  offsetStart : Nat
  offsetEnd : Nat
  startLine : Nat
  startColumn : Nat
  endLine : Nat
  endColumn : Nat
  deriving DecidableEq, Hashable, Repr, Inhabited

structure Location where
  uri : String
  span : Option SourceSpan
  deriving DecidableEq, Hashable, Repr, Inhabited

inductive Value where
  | map (entries : List (Value × Value))
  | list (items : List Value)
  | set (items : List Value)
  | tuple (items : List Value)
  | constr (kind : ConstructorKind) (name : String) (positional : List Value)
      (named : List (String × Value))
  | string (text : Text)
  | number (digits : String)
  | boolean (truth : Bool)
  | location (place : Location)
  deriving Repr, Inhabited

namespace Value

mutual

/-- Equality of trees, spelling of strings and order of children included. -/
def equal : Value → Value → Bool
  | map entries, map entries' => equalEntries entries entries'
  | list items, list items' => equalItems items items'
  | set items, set items' => equalItems items items'
  | tuple items, tuple items' => equalItems items items'
  | constr kind name positional named, constr kind' name' positional' named' =>
      kind == kind' && name == name' && equalItems positional positional' &&
        equalFields named named'
  | string text, string text' => text == text'
  | number digits, number digits' => digits == digits'
  | boolean truth, boolean truth' => truth == truth'
  | location place, location place' => place == place'
  | _, _ => false

def equalItems : List Value → List Value → Bool
  | [], [] => true
  | value :: values, value' :: values' =>
      equal value value' && equalItems values values'
  | _, _ => false

def equalEntries : List (Value × Value) → List (Value × Value) → Bool
  | [], [] => true
  | (key, value) :: entries, (key', value') :: entries' =>
      equal key key' && equal value value' && equalEntries entries entries'
  | _, _ => false

def equalFields : List (String × Value) → List (String × Value) → Bool
  | [], [] => true
  | (name, value) :: fields, (name', value') :: fields' =>
      name == name' && equal value value' && equalFields fields fields'
  | _, _ => false

end

mutual

theorem equal_iff (left right : Value) :
    equal left right = true ↔ left = right := by
  match left with
  | map entries => cases right <;> simp [equal, equalEntries_iff entries]
  | list items => cases right <;> simp [equal, equalItems_iff items]
  | set items => cases right <;> simp [equal, equalItems_iff items]
  | tuple items => cases right <;> simp [equal, equalItems_iff items]
  | constr kind name positional named =>
      cases right <;>
        simp [equal, equalItems_iff positional, equalFields_iff named, and_assoc]
  | string text => cases right <;> simp [equal]
  | number digits => cases right <;> simp [equal]
  | boolean truth => cases right <;> simp [equal]
  | location place => cases right <;> simp [equal]
termination_by structural left

theorem equalItems_iff (left right : List Value) :
    equalItems left right = true ↔ left = right := by
  match left, right with
  | [], [] => simp [equalItems]
  | [], _ :: _ => simp [equalItems]
  | _ :: _, [] => simp [equalItems]
  | value :: values, value' :: values' =>
      simp [equalItems, equal_iff value value', equalItems_iff values values']
termination_by structural left

theorem equalEntries_iff (left right : List (Value × Value)) :
    equalEntries left right = true ↔ left = right := by
  match left, right with
  | [], [] => simp [equalEntries]
  | [], _ :: _ => simp [equalEntries]
  | _ :: _, [] => simp [equalEntries]
  | (key, value) :: entries, (key', value') :: entries' =>
      simp [equalEntries, equal_iff key key', equal_iff value value', and_assoc,
        equalEntries_iff entries entries']
termination_by structural left

theorem equalFields_iff (left right : List (String × Value)) :
    equalFields left right = true ↔ left = right := by
  match left, right with
  | [], [] => simp [equalFields]
  | [], _ :: _ => simp [equalFields]
  | _ :: _, [] => simp [equalFields]
  | (name, value) :: fields, (name', value') :: fields' =>
      simp [equalFields, equal_iff value value', equalFields_iff fields fields']
termination_by structural left

end

instance : DecidableEq Value := fun left right =>
  decidable_of_iff (equal left right = true) (equal_iff left right)

end Value

end TreeQuery

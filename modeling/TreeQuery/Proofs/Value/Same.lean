import Mathlib.Data.List.Forall2
import Mathlib.Data.List.Perm.Basic
import TreeQuery.Value

/-!
# Structural equality of values

Two values are the same when they are built alike, the order of the named
children of each constructor left aside.  Strings are compared as they are
spelled, and every other kind of child in order.
-/

namespace TreeQuery

namespace Value

mutual

/-- Equality of trees up to the order of named children at every depth. -/
def Same : Value → Value → Prop
  | map entries, map entries' => SameEntries entries entries'
  | list items, list items' => SameItems items items'
  | set items, set items' => SameItems items items'
  | tuple items, tuple items' => SameItems items items'
  | constr kind name positional named,
      constr kind' name' positional' named' =>
      kind = kind' ∧ name = name' ∧ SameItems positional positional' ∧
        ∃ arranged, SameFields named arranged ∧ arranged.Perm named'
  | string text, string text' => text = text'
  | number digits, number digits' => digits = digits'
  | boolean truth, boolean truth' => truth = truth'
  | location place, location place' => place = place'
  | _, _ => False
termination_by structural value => value

/-- The same items in the same order. -/
def SameItems : List Value → List Value → Prop
  | [], [] => True
  | value :: values, value' :: values' =>
      Same value value' ∧ SameItems values values'
  | _, _ => False
termination_by structural value => value

/-- The same keys and values in the same order. -/
def SameEntries : List (Value × Value) → List (Value × Value) → Prop
  | [], [] => True
  | entry :: entries, entry' :: entries' =>
      SameEntry entry entry' ∧ SameEntries entries entries'
  | _, _ => False
termination_by structural value => value

def SameEntry : Value × Value → Value × Value → Prop
  | (key, value), (key', value') => Same key key' ∧ Same value value'
termination_by structural value => value

/-- The same names and children in the same order. -/
def SameFields : List (String × Value) → List (String × Value) → Prop
  | [], [] => True
  | (name, value) :: fields, (name', value') :: fields' =>
      name = name' ∧ Same value value' ∧ SameFields fields fields'
  | _, _ => False
termination_by structural value => value

end

end Value

end TreeQuery

import TreeQuery.Toml
import TreeQuery.Unicode.Lowercase

/-!
# Trees of settings

Layers of settings are merged table by table.  Names are compared without regard
to case, and each value remembers the file that it comes from.
-/

namespace TreeQuery

/-- A single value of a layer. -/
inductive Scalar where
  | nothing
  | integer (value : Int)
  | float (value : Floating)
  | boolean (truth : Bool)
  | string (text : String)
  deriving DecidableEq, Repr, Inhabited

inductive Setting where
  | scalar (origin : Option String) (value : Scalar)
  | list (origin : Option String) (items : List Setting)
  | table (origin : Option String) (fields : List (String × Setting))
  deriving Repr, Inhabited

instance : Coe Scalar Setting :=
  ⟨.scalar none⟩

namespace Setting

mutual

/-- Equality of trees, origins and order of fields included. -/
def equal : Setting → Setting → Bool
  | scalar origin value, scalar origin' value' =>
      origin == origin' && value == value'
  | list origin items, list origin' items' =>
      origin == origin' && equalItems items items'
  | table origin fields, table origin' fields' =>
      origin == origin' && equalFields fields fields'
  | _, _ => false

def equalItems : List Setting → List Setting → Bool
  | [], [] => true
  | item :: items, item' :: items' => equal item item' && equalItems items items'
  | _, _ => false

def equalFields : List (String × Setting) → List (String × Setting) → Bool
  | [], [] => true
  | (name, value) :: fields, (name', value') :: fields' =>
      name == name' && equal value value' && equalFields fields fields'
  | _, _ => false

end

mutual

theorem equal_iff (left right : Setting) :
    equal left right = true ↔ left = right := by
  match left with
  | scalar origin value => cases right <;> simp [equal]
  | list origin items => cases right <;> simp [equal, equalItems_iff items]
  | table origin fields => cases right <;> simp [equal, equalFields_iff fields]
termination_by structural left

theorem equalItems_iff (left right : List Setting) :
    equalItems left right = true ↔ left = right := by
  match left, right with
  | [], [] => simp [equalItems]
  | [], _ :: _ => simp [equalItems]
  | _ :: _, [] => simp [equalItems]
  | item :: items, item' :: items' =>
      simp [equalItems, equal_iff item item', equalItems_iff items items']
termination_by structural left

theorem equalFields_iff (left right : List (String × Setting)) :
    equalFields left right = true ↔ left = right := by
  match left, right with
  | [], [] => simp [equalFields]
  | [], _ :: _ => simp [equalFields]
  | _ :: _, [] => simp [equalFields]
  | (name, value) :: fields, (name', value') :: fields' =>
      simp [equalFields, equal_iff value value', equalFields_iff fields fields']
termination_by structural left

end

instance : DecidableEq Setting := fun left right =>
  decidable_of_iff (equal left right = true) (equal_iff left right)

mutual

/-- A value of a file. -/
def ofToml (origin : Option String) : Toml → Setting
  | .string text => scalar origin (.string text)
  | .integer value => scalar origin (.integer value)
  | .float value => scalar origin (.float value)
  | .boolean truth => scalar origin (.boolean truth)
  | .moment text => scalar origin (.string text)
  | .array items => list origin (ofTomlItems origin items)
  | .table fields => table origin (ofTomlFields origin fields)

def ofTomlItems (origin : Option String) : List Toml → List Setting
  | [] => []
  | item :: items => ofToml origin item :: ofTomlItems origin items

def ofTomlFields (origin : Option String) :
    List (String × Toml) → List (String × Setting)
  | [] => []
  | (name, value) :: fields =>
      (name, ofToml origin value) :: ofTomlFields origin fields

end

def emptyTable : Setting :=
  table none []

/-- The fields of a table; any other setting has none. -/
def fields : Setting → List (String × Setting)
  | table _ fields => fields
  | _ => []

/-- The field with this name in lower case. -/
def get? (setting : Setting) (name : String) : Option Setting :=
  (setting.fields.find? fun field => field.1 == Unicode.lower name).map Prod.snd

/-- Replace or add a field in a list of fields. -/
def putField (name : String) (value : Setting) :
    List (String × Setting) → List (String × Setting)
  | [] => [(name, value)]
  | field :: fields =>
      if field.1 == name then (name, value) :: fields
      else field :: putField name value fields

/-- Set a field under its name in lower case.  What is no table gives way to a
table. -/
def put (setting : Setting) (name : String) (value : Setting) : Setting :=
  match setting with
  | table origin fields => table origin (putField (Unicode.lower name) value fields)
  | _ => table none (putField (Unicode.lower name) value [])

mutual

/-- Merge a value into a field: a table is merged field by field, anything else
replaces what was there. -/
def merge (setting : Setting) (name : String) : Setting → Setting
  | scalar origin value => setting.put name (scalar origin value)
  | list origin items => setting.put name (list origin items)
  | table _ fields =>
      setting.put name (mergeAll ((setting.get? name).getD emptyTable) fields)

def mergeAll (setting : Setting) : List (String × Setting) → Setting
  | [] => setting
  | (name, value) :: fields => mergeAll (setting.merge name value) fields

end

/-- A step from a setting to a part of it. -/
inductive Step where
  | child (name : String)
  | item (position : Int)
  deriving DecidableEq, Repr, Inhabited

/-- A value behind the steps to the place where it is set. -/
abbrev Piece : Type := List Step × Setting

/-- The items of a list; any other setting has none. -/
def items : Setting → List Setting
  | list _ items => items
  | _ => []

/-- A position counted from the front, or from behind if it is negative. -/
def placeOf (position : Int) (length : Nat) : Nat :=
  if position < 0 then length - position.natAbs else position.toNat

/-- Change the item at a place of a list, which is filled up as needed. -/
def changeItem (setting : Setting) (position : Int)
    (change : Setting → Setting) : Setting :=
  let place := placeOf position setting.items.length
  let missing := place + 1 - setting.items.length
  let items := setting.items ++ List.replicate missing (scalar none .nothing)
  let origin :=
    match setting with
    | list origin _ => origin
    | _ => none
  list origin (items.mapIdx fun index item =>
    if index = place then change item else item)

/-- Set the part at the end of a path; what is missing on the way is made. -/
def assign (value : Setting) : List Step → Setting → Setting
  | [], _ => value
  | [.child name], setting => setting.merge name value
  | .child name :: path, setting =>
      setting.put name
        (assign value path ((setting.get? name).getD emptyTable))
  | .item position :: path, setting =>
      setting.changeItem position (assign value path)

end Setting

end TreeQuery

import TreeQuery.Decimal

/-!
# TOML documents

A document is a table of values.  While it is being read, a table remembers how
it came about, because each table may be defined only once.
-/

namespace TreeQuery

/-- A number with a fraction or an exponent. -/
inductive Floating where
  | finite (value : Decimal)
  | infinite (negative : Bool)
  | notANumber
  deriving DecidableEq, Repr, Inhabited

inductive Toml where
  | string (text : String)
  | integer (value : Int)
  | float (value : Floating)
  | boolean (truth : Bool)
  /-- A date, a time or both, as it is written. -/
  | moment (text : String)
  | array (items : List Toml)
  | table (fields : List (String × Toml))
  deriving Repr, Inhabited

namespace Toml

/-- How a table came about. -/
inductive TableOrigin where
  /-- It has a header of its own. -/
  | header
  /-- The header of a table inside it mentions it. -/
  | mentioned
  /-- A dotted key goes through it. -/
  | dotted
  deriving DecidableEq, Repr, Inhabited

/-- An entry of a document that is being read. -/
inductive Item where
  | value (content : Toml)
  | table (origin : TableOrigin) (fields : List (String × Item))
  /-- The tables under one repeated header. -/
  | tables (elements : List (List (String × Item)))
  deriving Inhabited

abbrev Fields := List (String × Item)

namespace Item

mutual

/-- The value that an entry amounts to. -/
def toml : Item → Toml
  | value content => content
  | table _ fields => .table (tomlFields fields)
  | tables elements => .array (tomlElements elements)

def tomlFields : List (String × Item) → List (String × Toml)
  | [] => []
  | (name, item) :: fields => (name, item.toml) :: tomlFields fields

def tomlElements : List (List (String × Item)) → List Toml
  | [] => []
  | fields :: elements => .table (tomlFields fields) :: tomlElements elements

end

end Item

namespace Fields

def find? (fields : Fields) (name : String) : Option Item :=
  (List.find? (fun field => field.1 == name) fields).map Prod.snd

/-- Set a field, which keeps its place if it was there before. -/
def put (fields : Fields) (name : String) (item : Item) : Fields :=
  if (find? fields name).isSome then
    fields.map fun field => if field.1 == name then (name, item) else field
  else fields ++ [(name, item)]

/-- May a dotted key reach a table? -/
def TableOrigin.isOpen (origin : TableOrigin) (isLast : Bool) : Bool :=
  if isLast then origin == .dotted else origin != .header

/-- Change the table at the end of a path; tables on the way are made as needed.
A dotted key does not pass through a table with a header of its own, and only a
table that dotted keys have made can be the last one on its path. -/
def within (throughDots : Bool) (change : Fields → Option Fields) :
    List String → Fields → Option Fields
  | [], fields => change fields
  | name :: path, fields =>
      match find? fields name with
      | none =>
          (within throughDots change path []).map fun inner =>
            put fields name
              (.table (if throughDots then .dotted else .mentioned) inner)
      | some (.value _) => none
      | some (.table origin inner) =>
          if throughDots && !TableOrigin.isOpen origin path.isEmpty then none
          else
            (within throughDots change path inner).map fun inner =>
              put fields name (.table origin inner)
      | some (.tables elements) =>
          if throughDots && path.isEmpty then none
          else
            (within throughDots change path (elements.getLastD [])).map
              fun inner =>
                put fields name (.tables (elements.dropLast ++ [inner]))

/-- Set a value that is not there yet. -/
def define (path : List String) (name : String) (value : Toml)
    (fields : Fields) : Option Fields :=
  within true
    (fun fields =>
      if (find? fields name).isSome then none
      else some (put fields name (.value value)))
    path fields

/-- Open the table of a header, which must not have been defined yet. -/
def openTable (path : List String) (name : String) (fields : Fields) :
    Option Fields :=
  within false
    (fun fields =>
      match find? fields name with
      | none => some (put fields name (.table .header []))
      | some (.table .mentioned inner) =>
          some (put fields name (.table .header inner))
      | some _ => none)
    path fields

/-- Open one more table under a repeated header. -/
def openElement (path : List String) (name : String) (fields : Fields) :
    Option Fields :=
  within false
    (fun fields =>
      match find? fields name with
      | none => some (put fields name (.tables [[]]))
      | some (.tables elements) =>
          some (put fields name (.tables (elements ++ [[]])))
      | some _ => none)
    path fields

end Fields

end Toml

end TreeQuery

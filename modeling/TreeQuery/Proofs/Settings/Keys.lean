import TreeQuery.Settings

/-!
# Keys of the settings

Each field of the settings has its key, a field of a section.  A value that is
set somewhere has an effect on a key if it stands under the key or inside of it,
or if it takes the place of the section.  The effects that a key meets, one after
the other, tell what is left under it.
-/

namespace TreeQuery

open Unicode

namespace Setting

def isTable : Setting → Bool
  | table _ _ => true
  | _ => false

def isList : Setting → Bool
  | list _ _ => true
  | _ => false

end Setting

namespace Settings

open Setting

/-- The keys that the settings are read from. -/
inductive Key where
  | maxResults
  | maxLabelChars
  | showRoles
  | format
  deriving DecidableEq, Repr

/-- What a value that is set somewhere does to a key. -/
inductive Effect where
  /-- The value is set inside of the key, at a path that is empty for the key
  itself. -/
  | given (path : List Step) (value : Setting)
  /-- What is no table takes the place of the section. -/
  | replaced (isList : Bool)
  deriving Repr

namespace Key

def part : Key → String
  | maxResults => "search"
  | maxLabelChars | showRoles => "tree"
  | format => "output"

def name : Key → String
  | maxResults => "max_results"
  | maxLabelChars => "max_label_chars"
  | showRoles => "show_roles"
  | format => "format"

def path (key : Key) : String :=
  key.part ++ "." ++ key.name

def steps (key : Key) : List Step :=
  [.child key.part, .child key.name]

/-- What the defaults hold under the key. -/
def default : Key → Setting
  | maxResults => .scalar none (.integer 100)
  | maxLabelChars => .scalar none (.integer 40)
  | showRoles => .scalar none (.boolean false)
  | format => .scalar none (.string "text")

/-- The setting can be turned into what is wanted of the key, and that is what
the settings have. -/
def Holds (key : Key) (library : Library) (setting : Setting)
    (settings : Settings) : Prop :=
  match key with
  | maxResults => library.toNat key.path setting = .ok settings.maxResults
  | maxLabelChars => library.toNat key.path setting = .ok settings.maxLabelChars
  | showRoles => library.toBool key.path setting = .ok settings.showRoles
  | format => library.toFormat key.path setting = .ok settings.format

/-- The effects of a value that is set at a path of the section. -/
def effectsWithin (key : Key) : List Step → Setting → List Effect
  | [], .table _ fields =>
      fields.filterMap fun field =>
        if lower field.1 = key.name then some (.given [] field.2) else none
  | [], value => [.replaced value.isList]
  | .child name :: path, value =>
      if lower name = key.name then [.given path value] else []
  | .item _ :: _, _ => [.replaced true]

/-- The effects of a value, whatever the case of names. -/
def effects (key : Key) : Piece → List Effect
  | (.child first :: path, value) =>
      if lower first = key.part then key.effectsWithin path value else []
  | _ => []

@[simp]
theorem lower_part (key : Key) : lower key.part = key.part := by
  cases key <;> rfl

@[simp]
theorem lower_name (key : Key) : lower key.name = key.name := by
  cases key <;> rfl

/-- A value under a key has an effect on this key alone. -/
theorem effects_steps (key target : Key) (value : Setting) :
    key.effects (target.steps, value) =
      if target = key then [.given [] value] else [] := by
  cases key <;> cases target <;> rfl

end Key

namespace Library

variable (library : Library)

/-- Merge fields into a table, one after the other. -/
def mergeFields (fields : List (String × Setting)) (setting : Setting) :
    Setting :=
  fields.foldl (fun setting field =>
    library.assign field.2 [.child field.1] setting) setting

/-- What a value at a path makes of what is there: a table is merged into it,
any other value takes its place, and a longer path goes on in it. -/
def give (value : Setting) (path : List Step) (old : Option Setting) : Setting :=
  match path, value with
  | [], .table _ fields => library.mergeFields fields (old.getD emptyTable)
  | [], value => value
  | step :: path, value => library.assign value (step :: path) (old.getD emptyTable)

/-- What an effect leaves under a key. -/
def leave (old : Option Setting) : Effect → Option Setting
  | .given path value => some (library.give value path old)
  | .replaced _ => none

/-- What some effects leave of the default. -/
def left (key : Key) (effects : List Effect) : Option Setting :=
  effects.foldl library.leave (some key.default)

end Library

end Settings

end TreeQuery

import TreeQuery.Numeral
import TreeQuery.Settings.KeyPath
import TreeQuery.Text.Visible
import TreeQuery.Toml.Reader

/-!
# Settings

Settings come from built-in defaults, from files and from single overrides.
Files are merged in order, and overrides after all files.  The values that
remain are turned into what is wanted of them where that makes sense.

How files and paths are read, how a value is set in a tree and how it is turned
into what is wanted is left to a library.  The usual one takes names in any case
and merges tables field by field.
-/

namespace TreeQuery

inductive OutputFormat where
  | text
  | json
  | yaml
  deriving DecidableEq, Repr, Inhabited

structure Settings where
  /-- The largest number of records that a search gives. -/
  maxResults : Nat
  /-- Longer labels are cut to this many characters. -/
  maxLabelChars : Nat
  /-- Are roles shown in drawings? -/
  showRoles : Bool
  format : OutputFormat
  deriving DecidableEq, Repr, Inhabited

/-- One source of settings. -/
inductive Layer where
  /-- A file by its name, with its content if it exists.  An optional file may
  be missing. -/
  | file (name : String) (content : Option String) (isOptional : Bool)
  /-- One value under a path. -/
  | override (path : String) (value : Setting)
  deriving Repr, Inhabited

inductive SettingsError where
  | pathFlaw (flaw : PathFlaw)
  | fileMissing (name : String)
  | fileMalformed (name : String)
  /-- A value that cannot be turned into what is wanted. -/
  | wrongType (found expected key : String) (origin : Option String)
  /-- A value that is no table where one is wanted. -/
  | wrongShape (found part : String)
  /-- A list that is too short for the fields of a table. -/
  | wrongLength (length : Nat) (part : String) (fields : Nat)
  | missingField (name : String)
  | unknownVariant (name : String)
  | noVariant
  deriving DecidableEq, Repr, Inhabited

namespace SettingsError

def message : SettingsError → String
  | pathFlaw flaw => flaw.message
  | fileMissing name => "configuration file \"" ++ name ++ "\" not found"
  | fileMalformed name => "configuration file \"" ++ name ++ "\" is malformed"
  | wrongType found expected key origin =>
      "invalid type: " ++ found ++ ", expected " ++ expected ++
        " for key \x60" ++ key ++ "\x60" ++
        match origin with
        | some file => " in " ++ file
        | none => ""
  | wrongShape found part =>
      "invalid type: " ++ found ++ ", expected struct " ++ part
  | wrongLength length part fields =>
      "invalid length " ++ toString length ++ ", expected struct " ++ part ++
        " with " ++ toString fields ++
        if fields = 1 then " element" else " elements"
  | missingField name => "missing field \x60" ++ name ++ "\x60"
  | unknownVariant name =>
      "enum OutputFormat does not have variant constructor " ++ name
  | noVariant =>
      "value of enum OutputFormat should be represented by either string or table with exactly one key"

end SettingsError

namespace Scalar

/-- The kind and value of a scalar that is wanted to be something else. -/
def found : Scalar → String
  | nothing => "unit value"
  | integer value => "integer \x60" ++ toString value ++ "\x60"
  | float (.finite value) => "floating point \x60" ++ value.text ++ "\x60"
  | float (.infinite false) => "floating point \x60inf\x60"
  | float (.infinite true) => "floating point \x60-inf\x60"
  | float .notANumber => "floating point \x60NaN\x60"
  | boolean truth =>
      "boolean \x60" ++ (if truth then "true" else "false") ++ "\x60"
  | string text => "string " ++ visible text.toList

end Scalar

namespace Floating

/-- The nearest integer, kept within the range of unsigned integers. -/
def toUnsigned : Floating → Nat
  | finite value =>
      if value.negative then 0
      else if value.isFinite then min value.nearest.round (UInt64.size - 1)
      else UInt64.size - 1
  | infinite false => UInt64.size - 1
  | infinite true => 0
  | notANumber => 0

def isZero : Floating → Bool
  | finite value => value.nearest.significand == 0
  | _ => false

end Floating

/-- The unsigned integer of 64 bits that a text spells, with or without a plus
sign. -/
def unsignedText? (text : String) : Option Nat :=
  match text.toList with
  | '+' :: digits => Numeral.word? digits
  | digits => Numeral.word? digits

/-- An integer by the bits that it takes. -/
def integerKind (value : Int) : String :=
  if Int64.minValue.toInt ≤ value ∧ value ≤ Int64.maxValue.toInt then
    "64-bit integer"
  else "128-bit integer"

namespace Setting

/-- The setting as an unsigned integer. -/
def toNat (key : String) : Setting → Except SettingsError Nat
  | scalar _ (.boolean truth) => .ok (if truth then 1 else 0)
  | scalar _ (.float value) => .ok value.toUnsigned
  | scalar origin (.integer value) =>
      if 0 ≤ value ∧ value < UInt64.size then .ok value.toNat
      else
        .error (.wrongType
          (integerKind value ++ " \x60" ++ toString value ++ "\x60")
          "an unsigned 64 bit or less integer" key origin)
  | scalar origin (.string text) =>
      if ["true", "on", "yes"].contains (Unicode.lower text) then .ok 1
      else if ["false", "off", "no"].contains (Unicode.lower text) then .ok 0
      else
        match unsignedText? text with
        | some value => .ok value
        | none =>
            .error (.wrongType ("string " ++ visible text.toList)
              "an integer" key origin)
  | scalar origin .nothing =>
      .error (.wrongType "unit value" "an integer" key origin)
  | list origin _ => .error (.wrongType "sequence" "an integer" key origin)
  | table origin _ => .error (.wrongType "map" "an integer" key origin)

/-- The setting as a truth value. -/
def toBool (key : String) : Setting → Except SettingsError Bool
  | scalar _ (.boolean truth) => .ok truth
  | scalar _ (.integer value) => .ok (value != 0)
  | scalar _ (.float value) => .ok (!value.isZero)
  | scalar origin (.string text) =>
      let word := Unicode.lower text
      if ["1", "true", "on", "yes"].contains word then .ok true
      else if ["0", "false", "off", "no"].contains word then .ok false
      else
        .error (.wrongType ("string " ++ visible word.toList)
          "a boolean" key origin)
  | scalar origin .nothing =>
      .error (.wrongType "unit value" "a boolean" key origin)
  | list origin _ => .error (.wrongType "sequence" "a boolean" key origin)
  | table origin _ => .error (.wrongType "map" "a boolean" key origin)

/-- The format with this name, in any case. -/
def formatNamed (name : String) : Except SettingsError OutputFormat :=
  match Unicode.lower name with
  | "text" => .ok .text
  | "json" => .ok .json
  | "yaml" => .ok .yaml
  | _ => .error (.unknownVariant name)

/-- The setting as a format: its name, or a table with its name only. -/
def toFormat (_key : String) : Setting → Except SettingsError OutputFormat
  | scalar _ (.string text) => formatNamed text
  | table _ [field] => formatNamed field.1
  | _ => .error .noVariant

/-- One field of a section, by its name in a table or its position in a list. -/
def sectionField (setting : Setting) (path part name : String)
    (position count : Nat) (convert : String → Setting → Except SettingsError α) :
    Except SettingsError α :=
  match setting with
  | table _ _ =>
      match setting.get? name with
      | some value => convert (path ++ "." ++ name) value
      | none => .error (.missingField name)
  | list _ items =>
      match items[position]? with
      | some value => convert (path ++ "[" ++ toString position ++ "]") value
      | none => .error (.wrongLength position part count)
  | scalar _ value => .error (.wrongShape value.found part)

end Setting

namespace Settings

/-- A section of the settings, which the defaults always hold. -/
def part (root : Setting) (name : String) : Except SettingsError Setting :=
  match root.get? name with
  | some setting => .ok setting
  | none => .error (.missingField name)

/-- The tree that all layers are merged into. -/
def defaults : Setting :=
  let scalar (value : Scalar) : Setting := .scalar none value
  .table none
    [("search", .table none [("max_results", scalar (.integer 100))]),
      ("tree", .table none
        [("max_label_chars", scalar (.integer 40)),
          ("show_roles", scalar (.boolean false))]),
      ("output", .table none [("format", scalar (.string "text"))])]

/-- What is left to a library of settings. -/
structure Library where
  /-- The steps of a path. -/
  steps : String → Except PathFlaw (List Setting.Step)
  /-- What a file of this name and content sets, if it is well formed. -/
  pieces : (name content : String) → Option (List Setting.Piece)
  /-- Set a value at the end of some steps. -/
  assign : Setting → List Setting.Step → Setting → Setting
  /-- The order in which overrides of different paths are set. -/
  order : List Setting.Piece → List Setting.Piece
  toNat : (key : String) → Setting → Except SettingsError Nat
  toBool : (key : String) → Setting → Except SettingsError Bool
  toFormat : (key : String) → Setting → Except SettingsError OutputFormat

namespace Library

variable (library : Library)

/-- Set some values one after the other. -/
def assignAll (root : Setting) (pieces : List Setting.Piece) : Setting :=
  pieces.foldl (fun root piece => library.assign piece.2 piece.1 root) root

/-- Merge one file. -/
def addFile (root : Setting) : Layer → Except SettingsError Setting
  | .override _ _ => .ok root
  | .file name none isOptional =>
      if isOptional then .ok root else .error (.fileMissing name)
  | .file name (some content) _ =>
      match library.pieces name content with
      | some pieces => .ok (library.assignAll root pieces)
      | none => .error (.fileMalformed name)

/-- Keep one override.  It takes the place of an earlier one of the same path. -/
def addOverride (kept : List Setting.Piece) :
    Layer → Except SettingsError (List Setting.Piece)
  | .file _ _ _ => .ok kept
  | .override path value =>
      match library.steps path with
      | .ok steps =>
          .ok (kept.filter (fun piece => piece.1 != steps) ++ [(steps, value)])
      | .error flaw => .error (.pathFlaw flaw)

/-- The settings that a merged tree amounts to. -/
def ofSetting (root : Setting) : Except SettingsError Settings := do
  let search ← part root "search"
  let maxResults ← search.sectionField "search" "SearchConfig" "max_results" 0 1
    library.toNat
  let tree ← part root "tree"
  let maxLabelChars ← tree.sectionField "tree" "TreeConfig" "max_label_chars" 0 2
    library.toNat
  let showRoles ← tree.sectionField "tree" "TreeConfig" "show_roles" 1 2
    library.toBool
  let output ← part root "output"
  let format ← output.sectionField "output" "OutputConfig" "format" 0 1
    library.toFormat
  return { maxResults, maxLabelChars, showRoles, format }

/-- The settings after all layers. -/
def load (layers : List Layer) : Except SettingsError Settings := do
  let overrides ← layers.foldlM library.addOverride []
  let merged ← layers.foldlM library.addFile defaults
  library.ofSetting (library.assignAll merged (library.order overrides))

/-- The steps to a field of a file at the top level.  A name that is no path is
taken as it is. -/
def topSteps (name : String) : List Setting.Step :=
  match Setting.Step.ofPath name with
  | .ok steps => steps
  | .error _ => [.child name]

/-- The usual library. -/
def standard : Library where
  steps := Setting.Step.ofPath
  pieces name content := (Toml.read? content).map fun fields =>
    fields.map fun (field, value) =>
      (topSteps field, Setting.ofToml (some name) value)
  assign := Setting.assign
  order := id
  toNat := Setting.toNat
  toBool := Setting.toBool
  toFormat := Setting.toFormat

end Library

/-- The settings after all layers, with the usual library. -/
def load (layers : List Layer) : Except SettingsError Settings :=
  Library.standard.load layers

end Settings

end TreeQuery

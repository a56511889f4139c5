import TreeQuery.Toml.Moment
import TreeQuery.Toml.Number

/-!
# Reading TOML

Arrays and tables are nested to a limited depth, and each line takes at least
one character.
-/

namespace TreeQuery

namespace Toml

namespace Reader

mutual

/-- A value with at most `levels` arrays and tables around a part of it. -/
def value : (bound levels : Nat) → Reader Toml
  | 0, _, _ => none
  | bound + 1, levels, chars =>
      match chars with
      | '"' :: _ | '\'' :: _ =>
          (quotedText chars).map fun (text, rest) => (.string text, rest)
      | '[' :: rest =>
          match levels with
          | 0 => none
          | levels + 1 =>
              (arrayItems bound levels (skipLines rest.length rest)).map
                fun (items, rest) => (.array items, rest)
      | '{' :: rest =>
          match levels, skipBlanks rest with
          | 0, _ => none
          | _ + 1, '}' :: rest => some (.table [], rest)
          | levels + 1, rest =>
              (inlineFields bound levels [] rest).map fun (fields, rest) =>
                (.table (Item.tomlFields fields), rest)
      | 't' :: 'r' :: 'u' :: 'e' :: rest => some (.boolean true, rest)
      | 'f' :: 'a' :: 'l' :: 's' :: 'e' :: rest => some (.boolean false, rest)
      | _ => if startsMoment chars then moment chars else number chars

/-- The items of an array up to its closing bracket. -/
def arrayItems : (bound levels : Nat) → Reader (List Toml)
  | 0, _, _ => none
  | bound + 1, levels, chars =>
      match chars with
      | ']' :: rest => some ([], rest)
      | _ => do
          let (item, rest) ← value bound levels chars
          match skipLines rest.length rest with
          | ',' :: rest =>
              let (items, rest) ←
                arrayItems bound levels (skipLines rest.length rest)
              return (item :: items, rest)
          | ']' :: rest => return ([item], rest)
          | _ => none

/-- The fields of a table in braces up to its closing brace. -/
def inlineFields : (bound levels : Nat) → Fields → Reader Fields
  | 0, _, _, _ => none
  | bound + 1, levels, fields, chars => do
      let ((path, name), rest) ← key chars
      let '=' :: rest := rest | none
      let (content, rest) ← value bound levels (skipBlanks rest)
      let fields ← fields.define path name content
      match skipBlanks rest with
      | ',' :: rest => inlineFields bound levels fields rest
      | '}' :: rest => return (fields, rest)
      | _ => none

end

/-- The rest behind the end of a line. -/
def endOfLine (chars : List Char) : Option (List Char) :=
  match skipComment (skipBlanks chars) with
  | [] => some []
  | rest => lineBreak? rest

/-- The lines of a document.  `current` is the path of the table that the fields
belong to. -/
def lines : (bound : Nat) → (current : List String) → Fields → List Char →
    Option Fields
  | 0, _, fields, _ => some fields
  | bound + 1, current, fields, chars =>
      match skipBlanks chars with
      | [] => some fields
      | '[' :: '[' :: rest => do
          let ((path, name), rest) ← key rest
          let ']' :: ']' :: rest := rest | none
          let fields ← fields.openElement path name
          lines bound (path ++ [name]) fields (← endOfLine rest)
      | '[' :: rest => do
          let ((path, name), rest) ← key rest
          let ']' :: rest := rest | none
          let fields ← fields.openTable path name
          lines bound (path ++ [name]) fields (← endOfLine rest)
      | char :: rest =>
          match endOfLine (char :: rest) with
          | some rest => lines bound current fields rest
          | none => do
              let ((path, name), rest) ← key (char :: rest)
              let '=' :: rest := rest | none
              let (content, rest) ←
                value (rest.length + 1) deepestLevel (skipBlanks rest)
              let fields ← Fields.within false
                (Fields.define path name content) current fields
              lines bound current fields (← endOfLine rest)

end Reader

/-- The fields of a document, or nothing if it is malformed. -/
def read? (source : String) : Option (List (String × Toml)) :=
  let chars := source.toList
  let chars := if chars.head? == some '\ufeff' then chars.drop 1 else chars
  (Reader.lines (chars.length + 1) [] [] chars).map Item.tomlFields

end Toml

end TreeQuery

import TreeQuery.Numeral
import TreeQuery.Toml

/-!
# Texts and keys in TOML

Each reader takes the start of a text and gives what it read and the rest, or
nothing if the text is malformed.
-/

namespace TreeQuery

namespace Toml

/-- A reader of the start of a text. -/
abbrev Reader (α : Type) : Type := List Char → Option (α × List Char)

namespace Reader

/-- The rest behind blanks within a line. -/
def skipBlanks (chars : List Char) : List Char :=
  chars.dropWhile fun char => char == ' ' || char == '\t'

/-- The rest behind a line break at the start, if there is one. -/
def lineBreak? : List Char → Option (List Char)
  | '\n' :: rest => some rest
  | '\r' :: '\n' :: rest => some rest
  | _ => none

/-- May the character stand in a comment or in a literal string? -/
def isVisible (char : Char) : Bool :=
  char == '\t' || (char.toNat ≥ 32 && char.toNat != 127)

/-- The rest behind a comment, if one starts here. -/
def skipComment : List Char → List Char
  | '#' :: rest => rest.dropWhile isVisible
  | chars => chars

/-- The rest behind blanks, comments and line breaks. -/
def skipLines : (bound : Nat) → List Char → List Char
  | 0, chars => chars
  | bound + 1, chars =>
      let behind := skipComment (skipBlanks chars)
      match lineBreak? behind with
      | some rest => skipLines bound rest
      | none => behind

/-- The character with `width` hexadecimal digits. -/
def codePoint (width : Nat) : Reader Char := fun chars =>
  let digits := chars.take width
  if digits.length = width ∧ digits.all (Numeral.isDigit 16) then
    (Numeral.char? digits).map fun char => (char, chars.drop width)
  else none

/-- The character that is written behind a backslash. -/
def escaped : Reader Char
  | 'b' :: rest => some ('\x08', rest)
  | 't' :: rest => some ('\t', rest)
  | 'n' :: rest => some ('\n', rest)
  | 'f' :: rest => some ('\x0c', rest)
  | 'r' :: rest => some ('\r', rest)
  | '"' :: rest => some ('"', rest)
  | '\\' :: rest => some ('\\', rest)
  | 'u' :: rest => codePoint 4 rest
  | 'U' :: rest => codePoint 8 rest
  | _ => none

/-- The characters up to a closing quote on the same line. -/
def basicBody : (bound : Nat) → Reader (List Char)
  | 0, _ => none
  | _ + 1, '"' :: rest => some ([], rest)
  | bound + 1, '\\' :: rest => do
      let (char, rest) ← escaped rest
      let (chars, rest) ← basicBody bound rest
      return (char :: chars, rest)
  | bound + 1, char :: rest =>
      if isVisible char then do
        let (chars, rest) ← basicBody bound rest
        return (char :: chars, rest)
      else none
  | _ + 1, [] => none

def literalBody : Reader (List Char) := fun chars =>
  let body := chars.takeWhile fun char => isVisible char && char != '\''
  match chars.drop body.length with
  | '\'' :: rest => some (body, rest)
  | _ => none

/-- Three closing quotes; up to two more quotes before them belong to the
text. -/
def closing (quote : Char) (chars : List Char) : Option (List Char × List Char) :=
  let quotes := (chars.takeWhile (· == quote)).length
  if quotes < 3 then none
  else
    let kept := min 5 quotes - 3
    some (List.replicate kept quote, chars.drop (kept + 3))

/-- The rest behind blanks and line breaks. -/
def skipMargin : List Char → List Char
  | ' ' :: rest => skipMargin rest
  | '\t' :: rest => skipMargin rest
  | '\n' :: rest => skipMargin rest
  | '\r' :: '\n' :: rest => skipMargin rest
  | chars => chars

/-- The characters of a text over several lines.  A backslash at the end of a
line joins it to the next text. -/
def multilineBody (quote : Char) (hasEscapes : Bool) :
    (bound : Nat) → Reader (List Char)
  | 0, _ => none
  | bound + 1, chars =>
      match closing quote chars with
      | some (kept, rest) => some (kept, rest)
      | none =>
          match lineBreak? chars with
          | some rest => do
              let (body, rest) ← multilineBody quote hasEscapes bound rest
              return ('\n' :: body, rest)
          | none =>
              match chars with
              | [] => none
              | char :: rest =>
                  if char = '\\' ∧ hasEscapes then
                    match lineBreak? (skipBlanks rest) with
                    | some rest =>
                        multilineBody quote hasEscapes bound (skipMargin rest)
                    | none => do
                        let (char, rest) ← escaped rest
                        let (body, rest) ← multilineBody quote hasEscapes bound rest
                        return (char :: body, rest)
                  else if isVisible char then do
                    let (body, rest) ← multilineBody quote hasEscapes bound rest
                    return (char :: body, rest)
                  else none

/-- The rest behind a line break that follows opening quotes. -/
def skipFirstBreak (chars : List Char) : List Char :=
  (lineBreak? chars).getD chars

def quotedText : Reader String := fun chars =>
  let asText (read : Option (List Char × List Char)) :=
    read.map fun (body, rest) => (String.ofList body, rest)
  match chars with
  | '"' :: '"' :: '"' :: rest =>
      asText (multilineBody '"' true (rest.length + 1) (skipFirstBreak rest))
  | '\'' :: '\'' :: '\'' :: rest =>
      asText (multilineBody '\'' false (rest.length + 1) (skipFirstBreak rest))
  | '"' :: rest => asText (basicBody (rest.length + 1) rest)
  | '\'' :: rest => asText (literalBody rest)
  | _ => none

def isBareKeyChar (char : Char) : Bool :=
  char.isAlphanum || char == '_' || char == '-'

/-- One part of a key. -/
def simpleKey : Reader String := fun chars =>
  match chars with
  | '"' :: rest =>
      (basicBody (rest.length + 1) rest).map fun (body, rest) =>
        (String.ofList body, rest)
  | '\'' :: rest =>
      (literalBody rest).map fun (body, rest) => (String.ofList body, rest)
  | _ =>
      let body := chars.takeWhile isBareKeyChar
      if body.isEmpty then none
      else some (String.ofList body, chars.drop body.length)

/-- How deep tables and arrays may be nested, and how many parts a key may
have. -/
def deepestLevel : Nat := 79

/-- A key of at most so many parts: the parts before the last point, and the
last part. -/
def keyWithin : (parts : Nat) → Reader (List String × String)
  | 0, _ => none
  | parts + 1, chars => do
      let (part, rest) ← simpleKey (skipBlanks chars)
      match skipBlanks rest with
      | '.' :: rest =>
          let ((path, name), rest) ← keyWithin parts rest
          return ((part :: path, name), rest)
      | rest => return (([], part), rest)

def key : Reader (List String × String) :=
  keyWithin deepestLevel

end Reader

end Toml

end TreeQuery

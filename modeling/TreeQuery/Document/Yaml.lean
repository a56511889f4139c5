import TreeQuery.Document
import TreeQuery.Document.Scalar

/-!
# Documents in YAML

Fields stand on lines of their own, two spaces further in than what holds them;
the items of a list stand behind hyphens in the column of its name.  A text is
written plainly where that is possible, else between quotes, and as a block if
it has several lines.
-/

namespace TreeQuery

namespace Document

/-- Characters that end a line. -/
def isLineBreak (char : Char) : Bool :=
  char == '\n' || char == '\r' || char == '\x85' || char == '\u2028' ||
    char == '\u2029'

/-- Spaces, tabs, line breaks and the end of the text. -/
def isGap : Option Char → Bool
  | none => true
  | some char =>
      char == ' ' || char == '\t' || char == '\x00' || isLineBreak char

/-- Characters that may be written as they are. -/
def isPrintable (char : Char) : Bool :=
  let code := char.toNat
  code == 0x0A || (0x20 ≤ code && code ≤ 0x7E) ||
    (0xA0 ≤ code && code ≤ 0xD7FF) ||
    (0xE000 ≤ code && code ≤ 0xFFFD && code != 0xFEFF) || 0x10000 ≤ code

/-- Characters that mean something at the start of a plain text. -/
def isLeadingIndicator (char : Char) : Bool :=
  ['#', ',', '[', ']', '{', '}', '&', '*', '!', '|', '>', '\'', '"', '%', '@',
    '\x60'].contains char

/-- Does a character mean something where it stands in a plain text? -/
def isIndicator (before : Option Char) (isFirst : Bool) (char : Char)
    (after : Option Char) : Bool :=
  if isFirst then
    isLeadingIndicator char ||
      ((char == '?' || char == ':' || char == '-') && isGap after)
  else
    (char == ':' && isGap after) || (char == '#' && isGap before)

/-- Does a plain text hold a character that means something? -/
def hasIndicator (before : Option Char) (isFirst : Bool) : List Char → Bool
  | [] => false
  | char :: rest =>
      isIndicator before isFirst char rest.head? ||
        hasIndicator (some char) false rest

/-- Is a character that fulfils `first` directly followed by one that fulfils
`second`? -/
def hasPair (first second : Char → Bool) : List Char → Bool
  | char :: next :: rest =>
      (first char && second next) || hasPair first second (next :: rest)
  | _ => false

def isSpace (char : Char) : Bool :=
  char == ' '

/-- May the text not even be written between single quotes or as a block? -/
def needsEscapes (chars : List Char) : Bool :=
  !chars.all isPrintable || hasPair isSpace isLineBreak chars

/-- May the text be written without quotes? -/
def isPlain (chars : List Char) : Bool :=
  !needsEscapes chars && !chars.any isLineBreak && !hasIndicator none true chars &&
    !chars.head?.any isSpace && !chars.getLast?.any isSpace &&
    !(['-', '-', '-'].isPrefixOf chars) && !(['.', '.', '.'].isPrefixOf chars)

/-- `width` hexadecimal digits in capital letters. -/
def yamlHex (width : Nat) (code : Nat) : List Char :=
  let digits := (Nat.toDigits 16 code).map Char.toUpper
  List.replicate (width - digits.length) '0' ++ digits

def yamlEscape (char : Char) : List Char :=
  match char with
  | '\x00' => ['\\', '0']
  | '\x07' => ['\\', 'a']
  | '\x08' => ['\\', 'b']
  | '\t' => ['\\', 't']
  | '\n' => ['\\', 'n']
  | '\x0b' => ['\\', 'v']
  | '\x0c' => ['\\', 'f']
  | '\r' => ['\\', 'r']
  | '\x1b' => ['\\', 'e']
  | '"' => ['\\', '"']
  | '\\' => ['\\', '\\']
  | '\x85' => ['\\', 'N']
  | '\u2028' => ['\\', 'L']
  | '\u2029' => ['\\', 'P']
  | _ =>
      if isPrintable char then [char]
      else if char.toNat ≤ 0xFF then ['\\', 'x'] ++ yamlHex 2 char.toNat
      else if char.toNat ≤ 0xFFFF then ['\\', 'u'] ++ yamlHex 4 char.toNat
      else ['\\', 'U'] ++ yamlHex 8 char.toNat

def doubleQuoted (chars : List Char) : List Char :=
  '"' :: chars.flatMap yamlEscape ++ ['"']

/-- The inside of a text between single quotes.  Spaces stand before the first
character behind line breaks. -/
def singleQuotedBody (indent : Nat) (afterBreak : Bool) : List Char → List Char
  | [] => if afterBreak then List.replicate indent ' ' else []
  | char :: rest =>
      if isLineBreak char then char :: singleQuotedBody indent true rest
      else
        (if afterBreak then List.replicate indent ' ' else []) ++
          (if char = '\'' then ['\'', '\''] else [char]) ++
          singleQuotedBody indent false rest

def singleQuoted (indent : Nat) (chars : List Char) : List Char :=
  '\'' :: singleQuotedBody indent false chars ++ ['\'']

/-- The lines of a block, each behind `indent` spaces unless it is empty. -/
def blockLines (indent : Nat) (afterBreak : Bool) : List Char → List Char
  | [] => []
  | char :: rest =>
      if isLineBreak char then char :: blockLines indent true rest
      else
        (if afterBreak then List.replicate indent ' ' else []) ++
          char :: blockLines indent false rest

/-- What tells a reader of a block that it starts with blanks. -/
def blockIndentHint (chars : List Char) : List Char :=
  if chars.head?.any fun char => isSpace char || isLineBreak char then ['2']
  else []

/-- What tells a reader of a block what to do about its last line break. -/
def blockEndHint (chars : List Char) : List Char :=
  match chars.reverse with
  | last :: before :: _ =>
      if !isLineBreak last then ['-']
      else if isLineBreak before then ['+']
      else []
  | [last] => if isLineBreak last then ['+'] else ['-']
  | [] => ['-']

def blockText (indent : Nat) (chars : List Char) : List Char :=
  '|' :: blockIndentHint chars ++ blockEndHint chars ++ ['\n'] ++
    blockLines indent true chars

/-- A text whose further lines, if it has any, start behind `indent` spaces. -/
def yamlText (indent : Nat) (text : String) : List Char :=
  let chars := text.toList
  if chars.contains '\n' then
    if needsEscapes chars || chars.getLast?.any isSpace then doubleQuoted chars
    else blockText indent chars
  else if needsEscapes chars || hasPair isLineBreak isSpace chars then
    doubleQuoted chars
  else if isAmbiguous text || !isPlain chars then singleQuoted indent chars
  else chars

mutual

/-- What follows the colon of a field or the hyphen of an item that stands
behind `indent` spaces, with the line break at its end. -/
def yamlContent (indent : Nat) (inList : Bool) : Document → List Char
  | null => [' ', 'n', 'u', 'l', 'l', '\n']
  | nat value => ' ' :: Nat.toDigits 10 value ++ ['\n']
  | text value => ' ' :: yamlText (indent + 2) value ++ ['\n']
  | list [] => [' ', '[', ']', '\n']
  | list items =>
      if inList then ' ' :: yamlItems (indent + 2) true items
      else '\n' :: yamlItems indent false items
  | fields [] => [' ', '{', '}', '\n']
  | fields members =>
      if inList then ' ' :: yamlFields (indent + 2) true members
      else '\n' :: yamlFields (indent + 2) false members
  | tagged tag content =>
      [' ', '!'] ++ tag.toList ++ yamlContent indent inList content

/-- The items of a list; the first one may continue a line. -/
def yamlItems (indent : Nat) (onLine : Bool) : List Document → List Char
  | [] => []
  | item :: items =>
      (if onLine then [] else List.replicate indent ' ') ++
        '-' :: yamlContent indent true item ++ yamlItems indent false items

def yamlFields (indent : Nat) (onLine : Bool) :
    List (String × Document) → List Char
  | [] => []
  | (name, content) :: members =>
      (if onLine then [] else List.replicate indent ' ') ++
        name.toList ++ ':' :: yamlContent indent false content ++
        yamlFields indent false members

end

def yaml (document : Document) : String :=
  String.ofList <|
    match document with
    | list (item :: items) => yamlItems 0 true (item :: items)
    | fields (member :: members) => yamlFields 0 true (member :: members)
    | other => (yamlContent 0 false other).drop 1

end Document

end TreeQuery

import TreeQuery.Document

/-!
# Documents in JSON

Every item and every field stands on a line of its own, two spaces further in
than what holds it.
-/

namespace TreeQuery

namespace Document

/-- A line break and the spaces before the next line. -/
def jsonBreak (indent : Nat) : List Char :=
  '\n' :: List.replicate indent ' '

/-- A code point below 256 as four hexadecimal digits. -/
def jsonCodePoint (char : Char) : List Char :=
  let digits := Nat.toDigits 16 char.toNat
  ['\\', 'u'] ++ List.replicate (4 - digits.length) '0' ++ digits

def jsonChar (char : Char) : List Char :=
  match char with
  | '"' => ['\\', '"']
  | '\\' => ['\\', '\\']
  | '\n' => ['\\', 'n']
  | '\r' => ['\\', 'r']
  | '\t' => ['\\', 't']
  | '\x08' => ['\\', 'b']
  | '\x0c' => ['\\', 'f']
  | _ => if char.toNat < 32 then jsonCodePoint char else [char]

def jsonString (text : String) : List Char :=
  '"' :: text.toList.flatMap jsonChar ++ ['"']

/-- Separate lines by commas and enclose them in brackets.  Without lines there
is no break either. -/
def jsonBlock (opening closing : Char) (indent : Nat)
    (lines : List (List Char)) : List Char :=
  if lines.isEmpty then [opening, closing]
  else
    opening :: jsonBreak (indent + 2) ++
      (',' :: jsonBreak (indent + 2)).intercalate lines ++
      jsonBreak indent ++ [closing]

def jsonField (name : String) (content : List Char) : List Char :=
  jsonString name ++ [':', ' '] ++ content

mutual

/-- The text of a document that starts behind `indent` spaces. -/
def jsonChars (indent : Nat) : Document → List Char
  | null => ['n', 'u', 'l', 'l']
  | nat value => Nat.toDigits 10 value
  | text value => jsonString value
  | list items => jsonBlock '[' ']' indent (jsonItems (indent + 2) items)
  | fields members => jsonBlock '{' '}' indent (jsonFields (indent + 2) members)
  | tagged tag content =>
      jsonBlock '{' '}' indent [jsonField tag (jsonChars (indent + 2) content)]

def jsonItems (indent : Nat) : List Document → List (List Char)
  | [] => []
  | item :: items => jsonChars indent item :: jsonItems indent items

def jsonFields (indent : Nat) : List (String × Document) → List (List Char)
  | [] => []
  | (name, content) :: members =>
      jsonField name (jsonChars indent content) :: jsonFields indent members

end

def json (document : Document) : String :=
  String.ofList (jsonChars 0 document)

end Document

end TreeQuery

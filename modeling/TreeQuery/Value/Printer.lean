import TreeQuery.Value

/-!
# The written form of values

Items are separated by a comma and a space; a location is written without
spaces.  Reading the written form of a value gives the value back.
-/

namespace TreeQuery

def writtenNat (n : Nat) : List Char :=
  Nat.toDigits 10 n

def writtenQuoted (text : Text) : List Char :=
  '"' :: text.segments.flatMap Segment.written ++ ['"']

def SourceSpan.written (span : SourceSpan) : List Char :=
  ['('] ++ writtenNat span.offsetStart ++ [','] ++ writtenNat span.offsetEnd ++
    [',', '<'] ++ writtenNat span.startLine ++ [','] ++
    writtenNat span.startColumn ++ ['>', ',', '<'] ++ writtenNat span.endLine ++
    [','] ++ writtenNat span.endColumn ++ ['>', ')']

def Location.written (place : Location) : List Char :=
  '|' :: place.uri.toList ++ ['|'] ++
    match place.span with
    | some span => span.written
    | none => []

/-- A location as it is written among values. -/
def Location.text (place : Location) : String :=
  String.ofList place.written

def separate (items : List (List Char)) : List Char :=
  [',', ' '].intercalate items

namespace Value

def writtenName (kind : ConstructorKind) (name : String) : List Char :=
  match kind with
  | .identifier => name.toList
  | .node => writtenQuoted (Text.ofPlain name)

mutual

def written : Value → List Char
  | map entries => '(' :: separate (writtenEntries entries) ++ [')']
  | list items => '[' :: separate (writtenItems items) ++ [']']
  | set items => '{' :: separate (writtenItems items) ++ ['}']
  | tuple items => '<' :: separate (writtenItems items) ++ ['>']
  | constr kind name positional named =>
      writtenName kind name ++ ['('] ++
        separate (writtenItems positional ++ writtenFields named) ++ [')']
  | string text => writtenQuoted text
  | number digits => digits.toList
  | boolean true => ['t', 'r', 'u', 'e']
  | boolean false => ['f', 'a', 'l', 's', 'e']
  | location place => place.written

def writtenItems : List Value → List (List Char)
  | [] => []
  | value :: values => written value :: writtenItems values

def writtenEntries : List (Value × Value) → List (List Char)
  | [] => []
  | (key, value) :: entries =>
      (written key ++ [':', ' '] ++ written value) :: writtenEntries entries

def writtenFields : List (String × Value) → List (List Char)
  | [] => []
  | (name, value) :: fields =>
      (name.toList ++ ['='] ++ written value) :: writtenFields fields

end

/-- The value as text. -/
def text (value : Value) : String :=
  String.ofList value.written

end Value

instance : ToString Value := ⟨Value.text⟩

end TreeQuery

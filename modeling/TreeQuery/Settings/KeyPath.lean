import TreeQuery.Settings.Setting

/-!
# Paths of settings

A path is a name, followed by names behind points and positions in brackets.
-/

namespace TreeQuery

/-- What is wrong with the text of a path. -/
inductive PathFlaw where
  /-- It does not start with a name. -/
  | nameExpected
  /-- Neither a point with a name, nor a bracket, nor its end. -/
  | unexpectedChar
  /-- No digit where a position is expected. -/
  | digitExpected
  /-- A position that is too large. -/
  | numberTooLarge
  deriving DecidableEq, Repr, Inhabited

namespace PathFlaw

def message : PathFlaw → String
  | nameExpected => "IsA"
  | unexpectedChar => "Char"
  | digitExpected => "Digit"
  | numberTooLarge => "Map on Result"

end PathFlaw

namespace Setting.Step

def isNameChar (char : Char) : Bool :=
  char.isAlphanum || char == ' ' || char == '_' || char == '-'

/-- A name at the start of a text and the rest. -/
def name? (chars : List Char) : Option (String × List Char) :=
  let body := chars.takeWhile isNameChar
  if body.isEmpty then none
  else some (String.ofList body, chars.drop body.length)

def skipSpace (chars : List Char) : List Char :=
  chars.dropWhile fun char => char == ' ' || char == '\t'

/-- A position behind an opening bracket, and the rest behind the closing one. -/
def position (chars : List Char) : Except PathFlaw (Int × List Char) :=
  let chars := skipSpace chars
  let (negative, digits) :=
    match chars with
    | '-' :: rest => (true, rest)
    | rest => (false, rest)
  let body := digits.takeWhile Char.isDigit
  if body.isEmpty then .error .digitExpected
  else
    let size : Int := Nat.ofDigitChars 10 body 0
    let place := if negative then -size else size
    if place < Int64.minValue.toInt ∨ Int64.maxValue.toInt < place then
      .error .numberTooLarge
    else
      match skipSpace (digits.drop body.length) with
      | ']' :: rest => .ok (place, rest)
      | _ => .error .unexpectedChar

/-- The steps behind the first name. -/
def further : (bound : Nat) → List Char → Except PathFlaw (List Setting.Step)
  | _, [] => .ok []
  | 0, _ => .error .unexpectedChar
  | bound + 1, '.' :: rest =>
      match name? rest with
      | some (name, rest) =>
          (further bound rest).map fun steps => .child name :: steps
      | none => .error .unexpectedChar
  | bound + 1, '[' :: rest =>
      match position rest with
      | .ok (place, rest) =>
          (further bound rest).map fun steps => .item place :: steps
      | .error flaw => .error flaw
  | _, _ => .error .unexpectedChar

/-- The steps of a path. -/
def ofPath (path : String) : Except PathFlaw (List Setting.Step) :=
  match name? path.toList with
  | some (name, rest) =>
      (further rest.length rest).map fun steps => .child name :: steps
  | none => .error .nameExpected

end Setting.Step

end TreeQuery

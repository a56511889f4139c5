import TreeQuery.Regex.Fault
import TreeQuery.Unicode.Blank

/-!
# Moving through the text of an expression

A scan moves on in the text, or finds a fault.  Where an expression asks for it,
blanks and comments are passed over.
-/

namespace TreeQuery.Regex

/-- How far the text has been read and what that has settled. -/
structure Scanner where
  rest : List Char
  offset : Nat
  /-- Are blanks and comments passed over? -/
  ignoresSpace : Bool
  names : List (List Char × Extent)

/-- A step of reading: it moves the scanner on, or finds a fault. -/
abbrev Scan (α : Type) : Type := StateT Scanner (Except Fault) α

namespace Scan

def fail (flaw : Flaw) (start stop : Nat) : Scan α :=
  throw ⟨flaw, ⟨start, stop⟩, none⟩

def failAgain (flaw : Flaw) (start stop : Nat) (earlier : Extent) : Scan α :=
  throw ⟨flaw, ⟨start, stop⟩, some earlier⟩

def offset : Scan Nat :=
  return (← get).offset

/-- What has been read since `start`. -/
def extentFrom (start : Nat) : Scan Extent :=
  return ⟨start, ← offset⟩

def ignoresSpace : Scan Bool :=
  return (← get).ignoresSpace

def setIgnoresSpace (value : Bool) : Scan Unit :=
  modify fun scanner => { scanner with ignoresSpace := value }

def peek : Scan (Option Char) :=
  return (← get).rest.head?

def atEnd : Scan Bool :=
  return (← get).rest.isEmpty

def advance (count : Nat) : Scan Unit :=
  modify fun scanner =>
    { scanner with
      rest := scanner.rest.drop count
      offset := scanner.offset + count }

/-- The length of the blanks and comments at the start of a text. -/
def spaceLength : (inComment : Bool) → List Char → Nat
  | _, [] => 0
  | true, char :: rest => spaceLength (char != '\n') rest + 1
  | false, char :: rest =>
      if char = '#' then spaceLength true rest + 1
      else if Unicode.isBlank char then spaceLength false rest + 1
      else 0

/-- Pass over blanks and comments where they are ignored. -/
def skipSpace : Scan Unit := do
  let scanner ← get
  if scanner.ignoresSpace then advance (spaceLength false scanner.rest)

/-- The first character that is neither a blank nor the sign that starts a
comment, which counts once only. -/
def behindSpace? : (seenSign : Bool) → List Char → Option Char
  | _, [] => none
  | seenSign, char :: rest =>
      if Unicode.isBlank char then behindSpace? seenSign rest
      else if char = '#' ∧ !seenSign then behindSpace? true rest
      else some char

/-- The character behind the next one.  Where blanks are ignored it is the one
behind them, if there is any. -/
def peekBehind : Scan (Option Char) := do
  let scanner ← get
  let rest := scanner.rest.drop 1
  if scanner.ignoresSpace then return behindSpace? false rest <|> rest.head?
  else return rest.head?

/-- Pass over one character and what is ignored behind it. -/
def step : Scan Unit := do
  advance 1
  skipSpace

/-- Pass over `text` if it comes next. -/
def takeText (text : String) : Scan Bool := do
  if text.toList.isPrefixOf (← get).rest then
    advance text.length
    return true
  else return false

/-- Pass over the characters at the start that fulfil a condition. -/
def takeWhile (condition : Char → Bool) : Scan (List Char) := do
  let taken := (← get).rest.takeWhile condition
  advance taken.length
  return taken

/-- Pass over such characters where blanks between them may be ignored. -/
def takeSpaced (condition : Char → Bool) : (bound : Nat) → Scan (List Char)
  | 0 => return []
  | bound + 1 => do
      match ← peek with
      | some char =>
          if condition char then
            step
            return char :: (← takeSpaced condition bound)
          else return []
      | none => return []

/-- The number of characters left. -/
def remaining : Scan Nat :=
  return (← get).rest.length

end Scan

end TreeQuery.Regex

/-!
# Where and why reading stopped

A failure names the first character that could not be read, what would have
been accepted there, and what stood there instead.
-/

namespace TreeQuery

/-- Insert into a list without repetition that is in increasing order. -/
def insertDistinct (item : String) : List String → List String
  | [] => [item]
  | first :: rest =>
      if item < first then item :: first :: rest
      else if item = first then first :: rest
      else first :: insertDistinct item rest

/-- The distinct members of a list, in increasing order. -/
def sortDistinct (items : List String) : List String :=
  items.foldr insertDistinct []

structure SyntaxFailure where
  /-- The number of characters before the input that could not be read. -/
  index : Nat
  /-- Descriptions of what would have been accepted, in increasing order. -/
  expected : List String
  found : Option String
  reason : Option String
  deriving DecidableEq, Repr, Inhabited

namespace SyntaxFailure

def ofExpected (index : Nat) (expected : List String)
    (found reason : Option String) : SyntaxFailure :=
  { index, expected := sortDistinct expected, found, reason }

/-- Is `description` among what would have been accepted? -/
def expects (failure : SyntaxFailure) (description : String) : Bool :=
  failure.expected.contains description

/-- A list of alternatives in words. -/
def alternatives : List String → String
  | [] => ""
  | [only] => ", expected " ++ only
  | [first, second] => ", expected " ++ first ++ " or " ++ second
  | items =>
      ", expected " ++ ", ".intercalate items.dropLast ++ ", or " ++
        items.getLastD ""

/-- A stated reason stands alone; otherwise the message tells what was expected
and what was found. -/
def message (failure : SyntaxFailure) : String :=
  let place := "parse error at index " ++ toString failure.index
  match failure.reason with
  | some reason => place ++ ": " ++ reason
  | none =>
      place ++ alternatives failure.expected ++
        match failure.found with
        | some found => ", found " ++ found
        | none => ""

end SyntaxFailure

end TreeQuery

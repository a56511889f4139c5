import TreeQuery.Token

/-!
# Faults met while reading

A fault is located at a number of tokens.  When a reader has tried several ways
to go on, the fault that lies furthest speaks for all of them; faults at one
place join what they expected.
-/

namespace TreeQuery.Reading

/-- What could have been read at some place. -/
inductive Expectation where
  | token (kind : Token.Kind)
  | endOfInput
  deriving DecidableEq, Repr, Inhabited

namespace Expectation

def description : Expectation → String
  | token kind => kind.description
  | endOfInput => "end of input"

end Expectation

/-- A complaint about input that has the right shape. -/
inductive Objection where
  | invalidRegex (body message : String)
  | notUnsigned (digits : String)
  | invalidFieldName
  | positionalAfterNamed
  deriving DecidableEq, Repr, Inhabited

namespace Objection

def message : Objection → String
  | invalidRegex body message =>
      "invalid regex /" ++ body ++ "/: " ++ message
  | notUnsigned digits => "expected an unsigned integer, found " ++ digits
  | invalidFieldName => "invalid field name before '='"
  | positionalAfterNamed => "positional argument after named argument"

end Objection

structure Fault where
  /-- The number of tokens read when the fault was met. -/
  position : Nat
  /-- The byte offset at which the offending input starts. -/
  start : Nat
  expected : List Expectation
  found : Option Token
  objection : Option Objection
  deriving DecidableEq, Repr, Inhabited

namespace Fault

/-- The fault that lies further on.  Of two at one place the first stays and
takes over what the second expected. -/
def further (first second : Fault) : Fault :=
  if first.position < second.position then second
  else if second.position < first.position then first
  else { first with expected := first.expected ++ second.expected }

/-- Take note of a newly met fault. -/
def note (passed new : Option Fault) : Option Fault :=
  match passed, new with
  | none, new => new
  | some passed, none => some passed
  | some passed, some new => some (new.further passed)

end Fault

end TreeQuery.Reading

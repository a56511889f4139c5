import TreeQuery.Failure
import TreeQuery.Reading.Rule
import TreeQuery.Text.Visible
import TreeQuery.Token.Lexer

/-!
# From faults to a failure

Reading a source succeeds when its rule takes all tokens and nothing was
emitted.  Otherwise the fault that starts first in the source is reported.
-/

namespace TreeQuery.Reading

/-- The first of the faults that start at the smallest offset. -/
def earliest (fault : Fault) : List Fault → Fault
  | [] => fault
  | other :: others =>
      earliest (if other.start < fault.start then other else fault) others

/-- Why a token cannot be read, when the token itself tells.  Tokens of patterns
are named where values are read. -/
def tokenReason (forValues : Bool) (token : Token) : Option String :=
  if forValues && token.kind.isPatternOnly then
    some (token.kind.description ++ " is only allowed in patterns")
  else if token.kind = .invalid then
    some ("unrecognized input " ++ visible token.lexeme)
  else none

/-- What was found at a fault, in words. -/
def foundText (source : String) (fault : Fault) : Option String :=
  match fault.found with
  | some token => some token.kind.description
  | none =>
      if source.utf8ByteSize ≤ fault.start then
        some Expectation.endOfInput.description
      else none

def failureOf (source : String) (forValues : Bool) (fault : Fault) :
    SyntaxFailure :=
  .ofExpected (charOffset source fault.start)
    (fault.expected.map Expectation.description)
    (foundText source fault)
    (match fault.objection with
      | some objection => some objection.message
      | none => fault.found.bind (tokenReason forValues))

/-- The place before the first token of a source. -/
def startOf (source : String) (tokens : List Token) : Cursor :=
  { ahead := tokens, position := 0, sourceEnd := source.utf8ByteSize }

/-- Read a whole source by a rule. -/
def readAll (forValues : Bool) (rule : List Token → Rule α) (source : String) :
    Except SyntaxFailure α :=
  let tokens := tokenize source
  let outcome := (rule tokens).thenSkip .finish (startOf source tokens)
  match outcome.emitted, outcome.result with
  | [], .ok progress => .ok progress.value
  | fault :: faults, .ok _ =>
      .error (failureOf source forValues (earliest fault faults))
  | [], .error last => .error (failureOf source forValues last)
  | fault :: faults, .error last =>
      .error (failureOf source forValues (earliest fault (faults ++ [last])))

end TreeQuery.Reading

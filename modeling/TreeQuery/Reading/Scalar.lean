import TreeQuery.Numeral
import TreeQuery.Reading.Rule
import TreeQuery.Value

/-!
# Rules for scalars

Numbers, truth values, quoted texts and locations are written alike in values
and in patterns.
-/

namespace TreeQuery.Reading

namespace Rule

def identifier : Rule String :=
  (token .identifier).map Token.written

def number : Rule String :=
  (token .number).map Token.written

/-- A quoted token, as a text. -/
def quoted (kind : Token.Kind) : Rule Text :=
  (token kind).map fun found => Text.decode found.body

def boolean : Rule Bool :=
  ((token .trueWord).map fun _ => true).orElse
    ((token .falseWord).map fun _ => false)

/-- An integer of a location: a number without sign, fraction and exponent. -/
def integer : Rule Nat :=
  (token .number).refine fun found =>
    match Numeral.word? found.lexeme with
    | some value => .ok value
    | none => .error (.notUnsigned found.written)

/-- A line and a column between angle brackets. -/
def lineColumn : Rule (Nat × Nat) :=
  ((integer.thenSkip (token .comma)).andThen integer).between
    .openAngle .closeAngle

/-- Two offsets and two places, in parentheses. -/
def sourceSpan : Rule SourceSpan :=
  ((((((integer.thenSkip (token .comma)).andThen integer).thenSkip
    (token .comma)).andThen lineColumn).thenSkip
      (token .comma)).andThen lineColumn |>.between .openParen .closeParen).map
    fun (((offsetStart, offsetEnd), (startLine, startColumn)),
        (endLine, endColumn)) =>
      { offsetStart, offsetEnd, startLine, startColumn, endLine, endColumn }

/-- A location, with or without the span that narrows it down. -/
def location : Rule Location :=
  (((token .location).map Token.body).andThen sourceSpan.optional).map
    fun (uri, span) => { uri, span }

end Rule

end TreeQuery.Reading

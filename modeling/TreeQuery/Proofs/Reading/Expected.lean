import TreeQuery.Proofs.Reading.Stopping

/-!
# What a failure expects

A failure without a reason of its own lists the kinds of the tokens that can
continue what stands before it, and the end of the input if that is an accepted
text.
-/

namespace TreeQuery

section

variable {item other : String} {items : List String}

end

namespace Reading

/-- Everything that may be expected. -/
def Expectation.all : List Expectation :=
  .endOfInput :: [.openParen, .closeParen, .openBracket, .closeBracket,
    .openBrace, .closeBrace, .openAngle, .closeAngle, .comma, .colon, .equals,
    .star, .alternation, .dot, .underscore, .trueWord, .falseWord, .identifier,
    .number, .string, .text, .regex, .location, .invalid].map .token

section

variable {dialect : Dialect} {fault : Fault} {source : String}
  {failure : SyntaxFailure}

end

end Reading

end TreeQuery

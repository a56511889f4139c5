/-!
# Tokens

Values and patterns are written with the same tokens.  A token keeps the text
that it was read from and its byte range in the source.
-/

namespace TreeQuery

/-- The kinds of token; `invalid` is input that no other kind covers. -/
inductive Token.Kind where
  | openParen
  | closeParen
  | openBracket
  | closeBracket
  | openBrace
  | closeBrace
  | openAngle
  | closeAngle
  | comma
  | colon
  | equals
  | star
  | alternation
  | dot
  | underscore
  | trueWord
  | falseWord
  | identifier
  | number
  | string
  | text
  | regex
  | location
  | invalid
  deriving DecidableEq, Repr, Inhabited

namespace Token.Kind

/-- How a failure message speaks of the kind. -/
def description : Kind → String
  | openParen => "'('"
  | closeParen => "')'"
  | openBracket => "'['"
  | closeBracket => "']'"
  | openBrace => "'\x7b'"
  | closeBrace => "'\x7d'"
  | openAngle => "'<'"
  | closeAngle => "'>'"
  | comma => "','"
  | colon => "':'"
  | equals => "'='"
  | star => "'*'"
  | alternation => "'||'"
  | dot => "'.'"
  | underscore => "'_'"
  | trueWord => "'true'"
  | falseWord => "'false'"
  | identifier => "identifier"
  | number => "number"
  | string => "string"
  | text => "text pattern"
  | regex => "regex"
  | location => "location"
  | invalid => "invalid input"

/-- The kinds that occur in patterns but never in values. -/
def isPatternOnly : Kind → Bool
  | star | alternation | dot | underscore | text | regex => true
  | _ => false

end Token.Kind

structure Token where
  kind : Token.Kind
  /-- The characters of the source that the token covers. -/
  lexeme : List Char
  /-- The byte offset of the first character. -/
  start : Nat
  /-- The byte offset after the last character. -/
  stop : Nat
  deriving DecidableEq, Repr, Inhabited

namespace Token

/-- The text that the token was read from. -/
def written (token : Token) : String :=
  String.ofList token.lexeme

/-- The text between the delimiters of a quoted token. -/
def body (token : Token) : String :=
  String.ofList (token.lexeme.drop 1).dropLast

end Token

end TreeQuery

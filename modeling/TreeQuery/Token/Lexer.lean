import TreeQuery.Token
import TreeQuery.Unicode.Blank

/-!
# Cutting a source into tokens

At each place the longest token wins.  Input that starts no token is kept as an
`invalid` token, so that a reader reports it where it stands.
-/

namespace TreeQuery

namespace Token

/-- The characters that may stand between tokens. -/
def isSkipped (char : Char) : Bool :=
  char == ' ' || char == '\t' || char == '\r' || char == '\n' || char == '\x0c'

def isNameStart (char : Char) : Bool :=
  char.isAlpha

def isNameRest (char : Char) : Bool :=
  char.isAlphanum || char == '_'

def isUriChar (char : Char) : Bool :=
  char != '|' && !Unicode.isBlank char

/-- How a quoted token ends: with its closing delimiter, or where no
continuation is possible. -/
inductive Ending where
  | closed
  | broken
  deriving DecidableEq, Repr

/-- Follow a quoted body to its closing delimiter and count the characters,
the delimiter included.  A backslash takes the next character with it, unless
that is a line feed. -/
def quotedRest (close : Char) (holdsLines : Bool) :
    List Char → Ending × Nat
  | [] => (.broken, 0)
  | ['\\'] => (.broken, 0)
  | '\\' :: escaped :: rest =>
      if escaped = '\n' then (.broken, 0)
      else
        let (ending, length) := quotedRest close holdsLines rest
        (ending, length + 2)
  | char :: rest =>
      if char = close then (.closed, 1)
      else if char = '\n' && !holdsLines then (.broken, 0)
      else
        let (ending, length) := quotedRest close holdsLines rest
        (ending, length + 1)

def digitCount (chars : List Char) : Nat :=
  (chars.takeWhile Char.isDigit).length

/-- The length of `e` or `E`, an optional minus and at least one digit at the
start of `chars`, or zero. -/
def exponentLength (chars : List Char) : Nat :=
  match chars with
  | mark :: rest =>
      if mark = 'e' || mark = 'E' then
        match rest with
        | '-' :: digits =>
            let count := digitCount digits
            if count = 0 then 0 else count + 2
        | digits =>
            let count := digitCount digits
            if count = 0 then 0 else count + 1
      else 0
  | [] => 0

/-- The length of a point, digits and an optional exponent at the start of
`chars`, or zero. -/
def fractionLength (chars : List Char) : Nat :=
  match chars with
  | '.' :: rest =>
      let count := digitCount rest
      if count = 0 then 0
      else count + 1 + exponentLength (rest.drop count)
  | _ => 0

/-- The length of an unsigned number at the start of `chars`, or zero. -/
def unsignedLength (chars : List Char) : Nat :=
  let count := digitCount chars
  if count = 0 then 0 else count + fractionLength (chars.drop count)

/-- The kind of a word: the two truth values are not identifiers. -/
def wordKind (word : List Char) : Kind :=
  if word = ['t', 'r', 'u', 'e'] then .trueWord
  else if word = ['f', 'a', 'l', 's', 'e'] then .falseWord
  else .identifier

def quotedToken (kind : Kind) (close : Char) (holdsLines : Bool)
    (rest : List Char) : Kind × Nat :=
  match quotedRest close holdsLines rest with
  | (.closed, length) => (kind, length + 1)
  | (.broken, length) => (.invalid, length + 1)

/-- The token that starts with a bar, given what follows the bar. -/
def barToken (rest : List Char) : Kind × Nat :=
  let uri := rest.takeWhile isUriChar
  match rest.drop uri.length with
  | '|' :: _ =>
      if uri.isEmpty then (.alternation, 2) else (.location, uri.length + 2)
  | _ => (.invalid, uri.length + 1)

/-- The kind and the length of the token that starts with `first`, given what
follows `first`. -/
def recognize (first : Char) (rest : List Char) : Kind × Nat :=
  match first with
  | '(' => (.openParen, 1)
  | ')' => (.closeParen, 1)
  | '[' => (.openBracket, 1)
  | ']' => (.closeBracket, 1)
  | '{' => (.openBrace, 1)
  | '}' => (.closeBrace, 1)
  | '<' => (.openAngle, 1)
  | '>' => (.closeAngle, 1)
  | ',' => (.comma, 1)
  | ':' => (.colon, 1)
  | '=' => (.equals, 1)
  | '*' => (.star, 1)
  | '.' => (.dot, 1)
  | '_' => (.underscore, 1)
  | '|' => barToken rest
  | '"' => quotedToken .string '"' true rest
  | '\'' => quotedToken .text '\'' true rest
  | '/' => quotedToken .regex '/' false rest
  | '-' =>
      let length := unsignedLength rest
      if length = 0 then (.invalid, 1) else (.number, length + 1)
  | _ =>
      if first.isDigit then (.number, unsignedLength (first :: rest))
      else if isNameStart first then
        let word := first :: rest.takeWhile isNameRest
        (wordKind word, word.length)
      else (.invalid, 1)

/-- The bytes that `chars` take in the source. -/
def byteLength : List Char → Nat
  | [] => 0
  | char :: rest => char.utf8Size + byteLength rest

/-- The tokens of `chars`, which start at byte `offset`.  The first `covered`
characters belong to a token that is already listed. -/
def scan (offset : Nat) : (covered : Nat) → List Char → List Token
  | _, [] => []
  | covered + 1, char :: rest => scan (offset + char.utf8Size) covered rest
  | 0, char :: rest =>
      if isSkipped char then scan (offset + char.utf8Size) 0 rest
      else
        let (kind, length) := recognize char rest
        let lexeme := (char :: rest).take length
        { kind, lexeme, start := offset, stop := offset + byteLength lexeme } ::
          scan (offset + char.utf8Size) (length - 1) rest

end Token

/-- The tokens of a source, in order. -/
def tokenize (source : String) : List Token :=
  Token.scan 0 0 source.toList

/-- The number of characters that lie before byte `offset`, if a character
starts or the text ends there. -/
def charsBefore : List Char → (offset : Nat) → Option Nat
  | _, 0 => some 0
  | [], _ + 1 => none
  | char :: rest, offset =>
      if char.utf8Size ≤ offset then
        (charsBefore rest (offset - char.utf8Size)).map (· + 1)
      else none

/-- Turn a byte offset into a count of characters.  An offset past the end or
inside a character counts the whole source. -/
def charOffset (source : String) (offset : Nat) : Nat :=
  (charsBefore source.toList offset).getD source.length

end TreeQuery

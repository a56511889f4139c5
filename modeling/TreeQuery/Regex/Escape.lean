import TreeQuery.Numeral
import TreeQuery.Regex.Scan
import TreeQuery.Regex.Term

/-!
# Escapes in expressions

A backslash and what follows it stand for a character, for a class or for a
condition on a place.
-/

namespace TreeQuery.Regex

open Scan

/-- Exactly `count` hexadecimal digits. -/
def scanHexDigits : (count : Nat) → Scan (List Char)
  | 0 => return []
  | count + 1 => do
      match ← peek with
      | none => fail .escapeUnexpectedEnd (← offset) (← offset)
      | some char =>
          if Numeral.isDigit 16 char then
            step
            return char :: (← scanHexDigits count)
          else fail .escapeHexInvalidDigit (← offset) ((← offset) + 1)

/-- Hexadecimal digits up to a closing brace; `opening` is where the opening
brace stands. -/
def scanHexUntilBrace (opening : Nat) : (bound : Nat) → Scan (List Char)
  | 0 => return []
  | bound + 1 => do
      match ← peek with
      | none => fail .escapeUnexpectedEnd opening (← offset)
      | some '}' => return []
      | some char =>
          if Numeral.isDigit 16 char then
            step
            return char :: (← scanHexUntilBrace opening bound)
          else fail .escapeHexInvalidDigit (← offset) ((← offset) + 1)

/-- The character of a code point in that many digits, or in any number of them
in braces.  The escape starts at `start`. -/
def scanHex (start count : Nat) : Scan Literal := do
  step
  match ← peek with
  | none => fail .escapeUnexpectedEnd (← offset) (← offset)
  | some '{' =>
      let opening ← offset
      step
      let digits ← scanHexUntilBrace opening ((← remaining) + 1)
      let closing ← offset
      step
      if digits.isEmpty then fail .escapeHexEmpty opening (← offset)
      match Numeral.char? digits with
      | some char => return ⟨char, ← extentFrom start, false⟩
      | none => fail .escapeHexInvalid (opening + 1) closing
  | some _ =>
      let first ← offset
      let digits ← scanHexDigits count
      match Numeral.char? digits with
      | some char => return ⟨char, ← extentFrom start, count == 2⟩
      | none => fail .escapeHexInvalid first (← offset)

/-- What an escape or a single character stands for. -/
inductive Primitive where
  | literal (literal : Literal)
  | named (named : NamedClass)
  | anchor (anchor : Anchor)

/-- Characters that have a meaning of their own somewhere. -/
def isMeta (char : Char) : Bool :=
  ['\\', '.', '+', '*', '?', '(', ')', '|', '[', ']', '{', '}', '^', '$', '#',
    '&', '-', '~'].contains char

/-- May a backslash stand before the character without any effect? -/
def isEscapable (char : Char) : Bool :=
  isMeta char ||
    (char.toNat < 128 && !char.isAlphanum && char != '<' && char != '>')

/-- The text before and behind the first occurrence of `sign`. -/
def splitAtSign? (sign : List Char) : List Char → Option (List Char × List Char)
  | [] => none
  | char :: rest =>
      if sign.isPrefixOf (char :: rest) then
        some ([], (char :: rest).drop sign.length)
      else
        (splitAtSign? sign rest).map fun (before, behind) =>
          (char :: before, behind)

/-- The name of a property, or its name and value with a sign between them. -/
def propertyName (chars : List Char) : Unicode.SetName :=
  match [['!', '='], [':'], ['=']].findSome? fun sign => splitAtSign? sign chars with
  | some (property, value) =>
      .valued (String.ofList property) (String.ofList value)
  | none => .plain (String.ofList chars)

/-- The name of a property behind `p`: one letter, or a text in braces. -/
def scanPropertyName : Scan Unicode.SetName := do
  step
  match ← peek with
  | none => fail .escapeUnexpectedEnd (← offset) (← offset)
  | some '\\' => fail .unicodeClassInvalid (← offset) ((← offset) + 1)
  | some '{' =>
      step
      let chars ← takeSpaced (· != '}') ((← remaining) + 1)
      if ← atEnd then fail .escapeUnexpectedEnd (← offset) (← offset)
      advance 1
      return propertyName chars
  | some char =>
      step
      return .plain (String.singleton char)

def isEdgeNameChar (char : Char) : Bool :=
  char.isAlpha || char == '-'

/-- The name in braces behind a word boundary, if there is one.  What is no
name is left to be read as a counted repetition. -/
def scanWordEdge (start : Nat) : Scan WordEdge := do
  match ← peek with
  | some '{' =>
      let before ← get
      let opening ← offset
      step
      match ← peek with
      | none => fail .specialWordOrRepetitionUnexpectedEnd start (← offset)
      | some char =>
          if !isEdgeNameChar char then
            set before
            return .boundary
          let nameStart ← offset
          let name ← takeSpaced isEdgeNameChar ((← remaining) + 1)
          if (← peek) != some '}' then
            fail .specialWordBoundaryUnclosed opening (← offset)
          let nameEnd ← offset
          advance 1
          match String.ofList name with
          | "start" => return .start
          | "end" => return .stop
          | "start-half" => return .startHalf
          | "end-half" => return .stopHalf
          | _ => fail .specialWordBoundaryUnrecognized nameStart nameEnd
  | _ => return .boundary

/-- A backslash and what belongs to it. -/
def scanEscape : Scan Primitive := do
  let start ← offset
  advance 1
  let literal (char : Char) : Scan Primitive :=
    return .literal ⟨char, ← extentFrom start, false⟩
  let named (name : ClassName) (negated : Bool) : Scan Primitive :=
    return .named ⟨name, negated, ← extentFrom start⟩
  match ← peek with
  | none => fail .escapeUnexpectedEnd start (← offset)
  | some char =>
      if char.isDigit then
        fail .unsupportedBackreference start ((← offset) + 1)
      match char with
      | 'x' => return .literal (← scanHex start 2)
      | 'u' => return .literal (← scanHex start 4)
      | 'U' => return .literal (← scanHex start 8)
      | 'p' => named (.property (← scanPropertyName)) false
      | 'P' => named (.property (← scanPropertyName)) true
      | _ =>
          advance 1
          if isEscapable char then return ← literal char
          match char with
          | 'd' => named .digits false
          | 'D' => named .digits true
          | 's' => named .blanks false
          | 'S' => named .blanks true
          | 'w' => named .wordChars false
          | 'W' => named .wordChars true
          | 'a' => literal '\x07'
          | 'f' => literal '\x0c'
          | 't' => literal '\t'
          | 'n' => literal '\n'
          | 'r' => literal '\r'
          | 'v' => literal '\x0b'
          | 'A' => return .anchor .textStart
          | 'z' => return .anchor .textEnd
          | 'b' => return .anchor (.word (← scanWordEdge start))
          | 'B' => return .anchor (.word .notBoundary)
          | '<' => return .anchor (.word .start)
          | '>' => return .anchor (.word .stop)
          | _ => fail .escapeUnrecognized start (← offset)

end TreeQuery.Regex

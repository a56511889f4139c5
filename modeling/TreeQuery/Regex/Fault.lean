/-!
# Faults in regular expressions

A fault names what is wrong and which part of the expression is to blame.  Its
description shows the expression with that part marked by carets.
-/

namespace TreeQuery.Regex

/-- What can be wrong with the text of an expression. -/
inductive Flaw where
  | classEscapeInvalid
  | classRangeInvalid
  | classRangeLiteral
  | classUnclosed
  | decimalInvalid
  | escapeHexEmpty
  | escapeHexInvalid
  | escapeHexInvalidDigit
  | escapeUnexpectedEnd
  | escapeUnrecognized
  | flagDanglingNegation
  | flagDuplicate
  | flagRepeatedNegation
  | flagUnexpectedEnd
  | flagUnrecognized
  | groupNameDuplicate
  | groupNameEmpty
  | groupNameInvalid
  | groupNameUnexpectedEnd
  | groupUnclosed
  | groupUnopened
  | nestedTooDeep (limit : Nat)
  | repetitionCountInvalid
  | repetitionCountMissing
  | repetitionCountUnclosed
  | repetitionMissing
  | specialWordBoundaryUnclosed
  | specialWordBoundaryUnrecognized
  | specialWordOrRepetitionUnexpectedEnd
  | unicodeClassInvalid
  | unicodeNotAllowed
  | unicodePropertyNotFound
  | unicodeValueNotFound
  | invalidUtf8
  | unsupportedBackreference
  | unsupportedLookAround
  deriving DecidableEq, Repr, Inhabited

namespace Flaw

def message : Flaw → String
  | classEscapeInvalid => "invalid escape sequence found in character class"
  | classRangeInvalid =>
      "invalid character class range, the start must be <= the end"
  | classRangeLiteral => "invalid range boundary, must be a literal"
  | classUnclosed => "unclosed character class"
  | decimalInvalid => "decimal literal invalid"
  | escapeHexEmpty => "hexadecimal literal empty"
  | escapeHexInvalid => "hexadecimal literal is not a Unicode scalar value"
  | escapeHexInvalidDigit => "invalid hexadecimal digit"
  | escapeUnexpectedEnd =>
      "incomplete escape sequence, reached end of pattern prematurely"
  | escapeUnrecognized => "unrecognized escape sequence"
  | flagDanglingNegation => "dangling flag negation operator"
  | flagDuplicate => "duplicate flag"
  | flagRepeatedNegation => "flag negation operator repeated"
  | flagUnexpectedEnd => "expected flag but got end of regex"
  | flagUnrecognized => "unrecognized flag"
  | groupNameDuplicate => "duplicate capture group name"
  | groupNameEmpty => "empty capture group name"
  | groupNameInvalid => "invalid capture group character"
  | groupNameUnexpectedEnd => "unclosed capture group name"
  | groupUnclosed => "unclosed group"
  | groupUnopened => "unopened group"
  | nestedTooDeep limit =>
      "exceed the maximum number of nested parentheses/brackets (" ++
        toString limit ++ ")"
  | repetitionCountInvalid =>
      "invalid repetition count range, the start must be <= the end"
  | repetitionCountMissing => "repetition quantifier expects a valid decimal"
  | repetitionCountUnclosed => "unclosed counted repetition"
  | repetitionMissing => "repetition operator missing expression"
  | specialWordBoundaryUnclosed =>
      "special word boundary assertion is either unclosed or contains an invalid character"
  | specialWordBoundaryUnrecognized =>
      "unrecognized special word boundary assertion, valid choices are: start, end, start-half or end-half"
  | specialWordOrRepetitionUnexpectedEnd =>
      "found either the beginning of a special word boundary or a bounded repetition on a \\b with an opening brace, but no closing brace"
  | unicodeClassInvalid => "invalid Unicode character class"
  | unicodeNotAllowed => "Unicode not allowed here"
  | unicodePropertyNotFound => "Unicode property not found"
  | unicodeValueNotFound => "Unicode property value not found"
  | invalidUtf8 => "pattern can match invalid UTF-8"
  | unsupportedBackreference => "backreferences are not supported"
  | unsupportedLookAround =>
      "look-around, including look-ahead and look-behind, is not supported"

end Flaw

/-- A part of an expression, in characters. -/
structure Extent where
  start : Nat
  stop : Nat
  deriving DecidableEq, Repr, Inhabited

structure Fault where
  flaw : Flaw
  extent : Extent
  /-- The earlier part that the faulty one repeats, if that is the flaw. -/
  earlier : Option Extent
  deriving DecidableEq, Repr, Inhabited

/-- A place by line and column, both counted from one. -/
structure Place where
  line : Nat
  column : Nat
  deriving DecidableEq, Repr, Inhabited

namespace Place

/-- The place after `count` characters, when `place` is that of the first. -/
def after (place : Place) : (count : Nat) → List Char → Place
  | 0, _ => place
  | _ + 1, [] => place
  | count + 1, char :: rest =>
      if char = '\n' then after ⟨place.line + 1, 1⟩ count rest
      else after ⟨place.line, place.column + 1⟩ count rest

end Place

/-- The parts of a text between line feeds. -/
def splitLines : List Char → List (List Char)
  | [] => [[]]
  | char :: rest =>
      if char = '\n' then [] :: splitLines rest
      else
        match splitLines rest with
        | [] => [[char]]
        | line :: lines => (char :: line) :: lines

/-- A line without the carriage return that belongs to the line feed behind it. -/
def dropReturn (line : List Char) : List Char :=
  if line.getLast? = some '\r' then line.dropLast else line

/-- The lines of a text; a line feed at the very end starts no line. -/
def linesOf (chars : List Char) : List (List Char) :=
  let lines := splitLines chars
  let last := lines.getLastD []
  lines.dropLast.map dropReturn ++ if last.isEmpty then [] else [last]

/-- Carets under the columns of `marks`, which are in increasing order, on a
line of notes that has reached `column`. -/
def carets : (column : Nat) → List (Nat × Nat) → List Char
  | _, [] => []
  | column, (first, last) :: marks =>
      let width := max 1 (last - first)
      List.replicate (first - column) ' ' ++ List.replicate width '^' ++
        carets (max column first + width) marks

/-- Sort marks on one line by where they start and end. -/
def sortMarks (marks : List (Nat × Nat)) : List (Nat × Nat) :=
  marks.mergeSort fun first second =>
    first.1 < second.1 || (first.1 == second.1 && first.2 ≤ second.2)

/-- Each line of an expression behind `label`, its marks below it. -/
def annotated (padding : Nat) (label : Nat → List Char)
    (marks : Nat → List (Nat × Nat)) : (number : Nat) → List (List Char) → List Char
  | _, [] => []
  | number, line :: lines =>
      let notes :=
        match marks number with
        | [] => []
        | here => List.replicate padding ' ' ++ carets 1 (sortMarks here) ++ ['\n']
      label number ++ line ++ ['\n'] ++ notes ++
        annotated padding label marks (number + 1) lines

/-- The description of a fault in an expression.  An expression on one line is
indented; the lines of a longer one are numbered and stand between rulers. -/
def Fault.describe (source : String) (fault : Fault) : String :=
  let chars := source.toList
  let spans := (fault.extent :: fault.earlier.toList).map fun extent =>
    (Place.after ⟨1, 1⟩ extent.start chars, Place.after ⟨1, 1⟩ extent.stop chars)
  let marks (number : Nat) : List (Nat × Nat) :=
    spans.filterMap fun (first, last) =>
      if first.line = number ∧ last.line = number then
        some (first.column, last.column)
      else none
  let lines := linesOf chars
  let title := "regex parse error:\n"
  let ending := "error: " ++ fault.flaw.message
  if chars.contains '\n' then
    let count := lines.length + if chars.getLast? = some '\n' then 1 else 0
    let width := if count ≤ 1 then 0 else (Nat.toDigits 10 count).length
    let label (number : Nat) : List Char :=
      if width = 0 then [' ', ' ', ' ', ' ']
      else
        let digits := Nat.toDigits 10 number
        List.replicate (width - digits.length) ' ' ++ digits ++ [':', ' ']
    let padding := if width = 0 then 4 else width + 2
    let ruler := String.ofList (List.replicate 79 '~') ++ "\n"
    let across := spans.filterMap fun (first, last) =>
      if first.line = last.line then none
      else
        some ("on line " ++ toString first.line ++ " (column " ++
          toString first.column ++ ") through line " ++ toString last.line ++
          " (column " ++ toString (last.column - 1) ++ ")\n")
    title ++ ruler ++ String.ofList (annotated padding label marks 1 lines) ++
      ruler ++ String.join across ++ ending
  else
    title ++ String.ofList
      (annotated 4 (fun _ => [' ', ' ', ' ', ' ']) marks 1 lines) ++ ending

end TreeQuery.Regex

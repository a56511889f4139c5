import TreeQuery.Decimal
import TreeQuery.Numeral

/-!
# Which texts read as something else

A text that is written without quotes must not look like nothing, like a truth
value or like a number.
-/

namespace TreeQuery.Document

/-- Is the text a numeral, with a mark for its base if it is not ten, of at most
`most`? -/
def isNumeral (most : Nat) (chars : List Char) : Bool :=
  let fits (base : Nat) (digits : List Char) : Bool :=
    !digits.isEmpty && digits.all (Numeral.isDigit base) &&
      Numeral.value base digits ≤ most
  match chars with
  | '0' :: 'x' :: digits => fits 16 digits
  | '0' :: 'o' :: digits => fits 8 digits
  | '0' :: 'b' :: digits => fits 2 digits
  | digits => fits 10 digits

/-- Is the text an integer of 128 bits, with a sign or without one? -/
def isInteger (chars : List Char) : Bool :=
  match chars with
  | '+' :: digits => isNumeral (Nat.pow 2 128 - 1) digits
  | '-' :: digits => isNumeral (Nat.pow 2 127) digits
  | digits => isNumeral (Nat.pow 2 128 - 1) digits

/-- A text without the sign at its start, if there is one. -/
def dropSign : List Char → List Char
  | '+' :: rest => rest
  | '-' :: rest => rest
  | chars => chars

/-- Are there several digits of which the first is a zero?  Some readers take
them for a number, however many there are. -/
def hasLeadingZero (chars : List Char) : Bool :=
  match dropSign chars with
  | '0' :: digit :: digits => (digit :: digits).all Char.isDigit
  | _ => false

/-- Leading digits of a text and the rest. -/
def spanDigits (chars : List Char) : List Char × List Char :=
  (chars.takeWhile Char.isDigit, chars.dropWhile Char.isDigit)

/-- Is the text a decimal with an optional fraction and exponent that is not too
large? -/
def isDecimal (chars : List Char) : Bool :=
  let (whole, rest) := spanDigits (dropSign chars)
  let (fraction, rest) :=
    match rest with
    | '.' :: rest => spanDigits rest
    | rest => ([], rest)
  let digits := Nat.ofDigitChars 10 (whole ++ fraction) 0
  let isFinite (power : Int) : Bool :=
    (Decimal.mk false digits (power - fraction.length)).isFinite
  !(whole ++ fraction).isEmpty &&
    match rest with
    | [] => isFinite 0
    | mark :: rest =>
        (mark == 'e' || mark == 'E') &&
          match rest with
          | '+' :: power => (Numeral.decimal? power).any fun power => isFinite power
          | '-' :: power => (Numeral.decimal? power).any fun power => isFinite (-power)
          | power => (Numeral.decimal? power).any fun power => isFinite power

/-- Words that stand for nothing, for a truth value or for a special number. -/
def specialWords : List String :=
  ["null", "Null", "NULL", "~", "true", "True", "TRUE", "false", "False",
    "FALSE", ".inf", ".Inf", ".INF", "+.inf", "+.Inf", "+.INF", "-.inf",
    "-.Inf", "-.INF", ".nan", ".NaN", ".NAN"]

/-- Would the text, written plainly, be read as something else than a text? -/
def isAmbiguous (text : String) : Bool :=
  text.isEmpty || specialWords.contains text || isInteger text.toList ||
    hasLeadingZero text.toList || isDecimal text.toList

end TreeQuery.Document

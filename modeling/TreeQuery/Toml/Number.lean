import TreeQuery.Toml.Quoted

/-!
# Numbers in TOML

Digits may be separated by underscores.  An integer has 64 bits; a number with a
fraction or an exponent must not be too large for a double.
-/

namespace TreeQuery

namespace Toml

namespace Reader

/-- Further digits, each of which may stand behind one underscore. -/
def moreDigits (isDigit : Char → Bool) : List Char → List Char × List Char
  | '_' :: char :: rest =>
      if isDigit char then
        let (digits, rest) := moreDigits isDigit rest
        (char :: digits, rest)
      else ([], '_' :: char :: rest)
  | char :: rest =>
      if isDigit char then
        let (digits, rest) := moreDigits isDigit rest
        (char :: digits, rest)
      else ([], char :: rest)
  | [] => ([], [])

/-- At least one digit. -/
def digitsOf (isDigit : Char → Bool) : Reader (List Char)
  | char :: rest =>
      if isDigit char then
        let (digits, rest) := moreDigits isDigit rest
        some (char :: digits, rest)
      else none
  | [] => none

/-- An integer of 64 bits. -/
def boundedInteger (value : Int) : Option Toml :=
  if Int64.minValue.toInt ≤ value ∧ value ≤ Int64.maxValue.toInt then
    some (.integer value)
  else none

/-- An unsigned integer to a base other than ten. -/
def radixInteger (base : Nat) : Reader Toml := fun chars => do
  let (digits, rest) ← digitsOf (Numeral.isDigit base) chars
  return (← boundedInteger (Numeral.value base digits), rest)

/-- A power of ten, with a sign or without one. -/
def power : Reader Int
  | '+' :: rest => (digitsOf Char.isDigit rest).map fun (digits, rest) =>
      ((Numeral.value 10 digits : Int), rest)
  | '-' :: rest => (digitsOf Char.isDigit rest).map fun (digits, rest) =>
      (-(Numeral.value 10 digits : Int), rest)
  | chars => (digitsOf Char.isDigit chars).map fun (digits, rest) =>
      ((Numeral.value 10 digits : Int), rest)

/-- A number with a fraction or an exponent.  What is too large for a double is
refused, what is too small stands for negative infinity. -/
def fractional (negative : Bool) (digits : List Char) (exponent : Int) :
    Option Toml :=
  let decimal : Decimal := ⟨negative, Numeral.value 10 digits, exponent⟩
  if decimal.isFinite then some (.float (.finite decimal))
  else if negative then some (.float (.infinite true))
  else none

/-- A decimal number behind its sign. -/
def decimalNumber (negative : Bool) : Reader Toml := fun chars => do
  let (whole, rest) ← digitsOf Char.isDigit chars
  if whole.head? == some '0' && whole.length > 1 then none
  else
    let (fraction, hasPoint, rest) ←
      match rest with
      | '.' :: rest => (digitsOf Char.isDigit rest).map fun (fraction, rest) =>
          (fraction, true, rest)
      | rest => some ([], false, rest)
    let shift : Int := -(fraction.length : Int)
    match rest with
    | 'e' :: rest | 'E' :: rest =>
        let (exponent, rest) ← power rest
        return (← fractional negative (whole ++ fraction) (exponent + shift), rest)
    | rest =>
        if hasPoint then
          return (← fractional negative (whole ++ fraction) shift, rest)
        else
          let value : Int := Numeral.value 10 whole
          return (← boundedInteger (if negative then -value else value), rest)

def signedNumber (negative : Bool) : Reader Toml
  | 'i' :: 'n' :: 'f' :: rest => some (.float (.infinite negative), rest)
  | 'n' :: 'a' :: 'n' :: rest => some (.float .notANumber, rest)
  | chars => decimalNumber negative chars

def number : Reader Toml
  | '+' :: rest => signedNumber false rest
  | '-' :: rest => signedNumber true rest
  | '0' :: 'x' :: rest => radixInteger 16 rest
  | '0' :: 'o' :: rest => radixInteger 8 rest
  | '0' :: 'b' :: rest => radixInteger 2 rest
  | chars => signedNumber false chars

end Reader

end Toml

end TreeQuery

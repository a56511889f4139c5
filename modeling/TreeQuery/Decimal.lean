/-!
# Decimals and double precision

A decimal is read as the double that lies nearest, with ties to the even
neighbour.  The double is kept exactly, as a number times a power of two.
-/

namespace TreeQuery

/-- `digits` times ten to `exponent`, with a sign. -/
structure Decimal where
  negative : Bool
  digits : Nat
  exponent : Int
  deriving DecidableEq, Repr, Inhabited

/-- `significand` times two to `exponent`. -/
structure Binary where
  significand : Nat
  exponent : Int
  deriving DecidableEq, Repr, Inhabited

namespace Binary

def zero : Binary := ⟨0, 0⟩

/-- The numerator and the denominator. -/
def fraction (binary : Binary) : Nat × Nat :=
  if binary.exponent < 0 then
    (binary.significand, Nat.pow 2 (-binary.exponent).toNat)
  else (binary.significand * Nat.pow 2 binary.exponent.toNat, 1)

/-- The nearest integer; a half goes up. -/
def round (binary : Binary) : Nat :=
  let (numerator, denominator) := binary.fraction
  (2 * numerator + denominator) / (2 * denominator)

def sameValue (left right : Binary) : Bool :=
  left.fraction.1 * right.fraction.2 == right.fraction.1 * left.fraction.2

end Binary

namespace Decimal

/-- The number of decimal digits before the point, if the value is not zero. -/
def magnitude (decimal : Decimal) : Int :=
  decimal.exponent + (Nat.toDigits 10 decimal.digits).length

/-- The numerator and the denominator of the value without its sign. -/
def fraction (decimal : Decimal) : Nat × Nat :=
  if decimal.exponent < 0 then
    (decimal.digits, Nat.pow 10 (-decimal.exponent).toNat)
  else (decimal.digits * Nat.pow 10 decimal.exponent.toNat, 1)

/-- Is there a double next to the value?  The bound lies halfway between the
largest double and the next power of two. -/
def isFinite (decimal : Decimal) : Bool :=
  if decimal.digits = 0 ∨ decimal.magnitude < 309 then true
  else if decimal.magnitude > 310 then false
  else decimal.fraction.1 < (Nat.pow 2 54 - 1) * Nat.pow 2 970 * decimal.fraction.2

/-- A quotient divided by two to `exponent`, as numerator and denominator. -/
def shifted (numerator denominator : Nat) (exponent : Int) : Nat × Nat :=
  if exponent < 0 then (numerator * Nat.pow 2 (-exponent).toNat, denominator)
  else (numerator, denominator * Nat.pow 2 exponent.toNat)

/-- The nearest integer to a quotient; a half goes to the even neighbour. -/
def divideToEven (numerator denominator : Nat) : Nat :=
  let quotient := numerator / denominator
  let twice := 2 * (numerator % denominator)
  if twice < denominator then quotient
  else if denominator < twice then quotient + 1
  else quotient + quotient % 2

/-- The double nearest to the value without its sign; a double has 53 binary
digits and an exponent of at least -1074. -/
def nearest (decimal : Decimal) : Binary :=
  if decimal.digits = 0 ∨ decimal.magnitude < -330 then .zero
  else
    let (numerator, denominator) := decimal.fraction
    let guess : Int :=
      (Nat.log2 numerator : Int) - (Nat.log2 denominator : Int) - 52
    let (top, bottom) := shifted numerator denominator guess
    let exponent := if top / bottom < Nat.pow 2 52 then guess - 1 else guess
    let exponent := max exponent (-1074)
    let (top, bottom) := shifted numerator denominator exponent
    ⟨divideToEven top bottom, exponent⟩

/-- The two decimals with `count` digits around a double whose first digit has
the given place. -/
def neighbours (binary : Binary) (magnitude : Int) (count : Nat) :
    List Decimal :=
  let exponent := magnitude - count
  let (numerator, denominator) := binary.fraction
  let scaled :=
    if exponent < 0 then numerator * Nat.pow 10 (-exponent).toNat / denominator
    else numerator / (denominator * Nat.pow 10 exponent.toNat)
  [⟨false, scaled, exponent⟩, ⟨false, scaled + 1, exponent⟩]

/-- How far a decimal lies from a double, as numerator and denominator. -/
def distance (binary : Binary) (decimal : Decimal) : Nat × Nat :=
  let (top, bottom) := binary.fraction
  let (top', bottom') := decimal.fraction
  let left := top * bottom'
  let right := top' * bottom
  (max left right - min left right, bottom * bottom')

/-- Is the first of two decimals at least as near to a double? -/
def isNearer (binary : Binary) (first second : Decimal) : Bool :=
  let (top, bottom) := distance binary first
  let (top', bottom') := distance binary second
  top * bottom' ≤ top' * bottom

/-- The nearest decimal with the fewest digits that reads back as the double. -/
def shortest (binary : Binary) (magnitude : Int) : Decimal :=
  let readsBack (decimal : Decimal) : Bool := decimal.nearest.sameValue binary
  let found := (List.range 17).findSome? fun before =>
    match (neighbours binary magnitude (before + 1)).filter readsBack with
    | [first, second] => some (if isNearer binary first second then first else second)
    | [only] => some only
    | _ => none
  found.getD ⟨false, binary.round, 0⟩

/-- The digits of a decimal around a point, without an exponent. -/
def positional (decimal : Decimal) : List Char :=
  let digits := Nat.toDigits 10 decimal.digits
  if decimal.exponent < 0 then
    let places := (-decimal.exponent).toNat
    let padded := List.replicate (places + 1 - digits.length) '0' ++ digits
    let fraction := (padded.drop (padded.length - places)).reverse.dropWhile (· == '0')
    padded.take (padded.length - places) ++
      (if fraction.isEmpty then ['.', '0'] else '.' :: fraction.reverse)
  else digits ++ List.replicate decimal.exponent.toNat '0' ++ ['.', '0']

/-- The shortest text, with a point, that reads back as the nearest double. -/
def text (decimal : Decimal) : String :=
  let binary := decimal.nearest
  let body :=
    if binary.significand = 0 then ['0', '.', '0']
    else (shortest binary decimal.magnitude).positional
  String.ofList (if decimal.negative then '-' :: body else body)

end Decimal

end TreeQuery

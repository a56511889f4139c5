/-!
# Numerals

What digits spell, in decimal notation and to other bases.
-/

namespace TreeQuery.Numeral

/-- The number that decimal digits spell, if there are only such. -/
def decimal? (chars : List Char) : Option Nat :=
  if chars ≠ [] ∧ chars.all Char.isDigit then
    some (Nat.ofDigitChars 10 chars 0)
  else none

/-- An unsigned integer of 64 bits in decimal digits. -/
def word? (chars : List Char) : Option Nat :=
  (decimal? chars).filter (· < UInt64.size)

/-- What a digit stands for; behind nine come the letters, of either case. -/
def digit? (char : Char) : Option Nat :=
  if char.isDigit then some (char.toNat - '0'.toNat)
  else if 'a' ≤ char ∧ char ≤ 'z' then some (char.toNat - 'a'.toNat + 10)
  else if 'A' ≤ char ∧ char ≤ 'Z' then some (char.toNat - 'A'.toNat + 10)
  else none

def isDigit (base : Nat) (char : Char) : Bool :=
  (digit? char).any (· < base)

/-- The number that digits to a base spell. -/
def value (base : Nat) (digits : List Char) : Nat :=
  digits.foldl (fun value char => base * value + (digit? char).getD 0) 0

/-- The character whose code point hexadecimal digits spell. -/
def char? (digits : List Char) : Option Char :=
  if (value 16 digits).isValidChar then some (Char.ofNat (value 16 digits))
  else none

end TreeQuery.Numeral

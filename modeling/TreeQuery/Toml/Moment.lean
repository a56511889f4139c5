import TreeQuery.Toml.Quoted

/-!
# Dates and times in TOML

A date, a time or both are kept as text, with a capital letter between them and
without zeros at the end of a fraction of a second.
-/

namespace TreeQuery

namespace Toml

namespace Reader

/-- Exactly `width` decimal digits, with their value. -/
def fixedDigits (width : Nat) : Reader Nat := fun chars =>
  let digits := chars.take width
  if digits.length = width ∧ digits.all Char.isDigit then
    some (Numeral.value 10 digits, chars.drop width)
  else none

def daysInMonth (year month : Nat) : Nat :=
  match month with
  | 2 => if year % 4 = 0 ∧ (year % 100 ≠ 0 ∨ year % 400 = 0) then 29 else 28
  | 4 | 6 | 9 | 11 => 30
  | _ => 31

/-- Year, month and day. -/
def date : Reader (List Char) := fun chars => do
  let (year, rest) ← fixedDigits 4 chars
  let '-' :: rest := rest | none
  let (month, rest) ← fixedDigits 2 rest
  let '-' :: rest := rest | none
  let (day, rest) ← fixedDigits 2 rest
  if 1 ≤ month ∧ month ≤ 12 ∧ 1 ≤ day ∧ day ≤ daysInMonth year month then
    some (chars.take 10, rest)
  else none

/-- A point and the digits behind it, of which nine count; zeros at the end are
dropped. -/
def secondFraction : Reader (List Char)
  | '.' :: rest =>
      let digits := rest.takeWhile Char.isDigit
      let kept := ((digits.take 9).reverse.dropWhile (· == '0')).reverse
      if digits.isEmpty then none
      else
        some (if kept.isEmpty then [] else '.' :: kept, rest.drop digits.length)
  | chars => some ([], chars)

/-- Hours, minutes and seconds. -/
def time : Reader (List Char) := fun chars => do
  let (hour, rest) ← fixedDigits 2 chars
  let ':' :: rest := rest | none
  let (minute, rest) ← fixedDigits 2 rest
  let ':' :: rest := rest | none
  let (second, rest) ← fixedDigits 2 rest
  let (fraction, rest) ← secondFraction rest
  if hour < 24 ∧ minute < 60 ∧ second ≤ 60 then
    some (chars.take 8 ++ fraction, rest)
  else none

/-- The offset from universal time, if there is one.  That of nothing is written
with a plus. -/
def zone : Reader (List Char)
  | 'Z' :: rest => some (['Z'], rest)
  | 'z' :: rest => some (['Z'], rest)
  | sign :: rest =>
      if sign = '+' ∨ sign = '-' then do
        let (hour, behind) ← fixedDigits 2 rest
        let ':' :: behind := behind | none
        let (minute, behind) ← fixedDigits 2 behind
        if hour < 24 ∧ minute < 60 then
          let sign := if hour = 0 ∧ minute = 0 then '+' else sign
          some (sign :: rest.take 5, behind)
        else none
      else some ([], sign :: rest)
  | [] => some ([], [])

/-- A time behind a date, and the offset behind that. -/
def timeAndZone : Reader (List Char) := fun chars => do
  let (clock, rest) ← time chars
  let (offset, rest) ← zone rest
  return ('T' :: clock ++ offset, rest)

/-- A date, a time, or a date with a time. -/
def moment : Reader Toml := fun chars => do
  let asMoment (text : List Char) : Toml := .moment (String.ofList text)
  if (fixedDigits 4 chars).isSome then
    let (day, rest) ← date chars
    let (clock, rest) ←
      match rest with
      | 'T' :: rest | 't' :: rest => timeAndZone rest
      | ' ' :: digit :: behind =>
          if digit.isDigit then timeAndZone (digit :: behind)
          else some ([], ' ' :: digit :: behind)
      | rest => some ([], rest)
    return (asMoment (day ++ clock), rest)
  else
    let (clock, rest) ← time chars
    return (asMoment clock, rest)

/-- Does a date or a time start here? -/
def startsMoment (chars : List Char) : Bool :=
  ((fixedDigits 4 chars).any fun found => found.2.head? == some '-') ||
    ((fixedDigits 2 chars).any fun found => found.2.head? == some ':')

end Reader

end Toml

end TreeQuery

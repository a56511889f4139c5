import TreeQuery.Regex.Escape
import TreeQuery.Regex.Flags

/-!
# Reading bracketed classes

A class in brackets holds characters, ranges and further classes, and it may be
combined with another one by an operator.  A stack keeps the open brackets and
the operators that wait for their right side.
-/

namespace TreeQuery.Regex

open Scan

/-- The items read side by side, and where the first one would start. -/
structure ClassItems where
  place : Nat
  items : List ClassTerm

namespace ClassItems

def push (items : ClassItems) (item : ClassTerm) : ClassItems :=
  { items with items := items.items ++ [item] }

def term (items : ClassItems) : ClassTerm :=
  .ofItems items.place items.items

end ClassItems

/-- What encloses the items being read. -/
inductive ClassFrame where
  /-- An open bracket, the items read before it in the class around it, and the
  extent of the bracket with what has a special place behind it. -/
  | bracket (outer : ClassItems) (negated : Bool) (opening : Extent)
  /-- An operator and its left side. -/
  | operator (operator : ClassOperator) (left : ClassTerm)

/-- The fault of a class that is not closed, blamed on the innermost bracket. -/
def failUnclosed (frames : List ClassFrame) : Scan α := do
  let openings := frames.filterMap fun
    | .bracket _ _ opening => some opening
    | .operator _ _ => none
  let opening := openings.headD (← extentFrom (← offset))
  fail .classUnclosed opening.start opening.stop

/-- The members of the classes that are named between colons. -/
def fixedMembers? (name : String) : Option CharSet :=
  match name with
  | "alnum" => some (.union asciiDigits asciiLetters)
  | "alpha" => some asciiLetters
  | "ascii" => some (.range '\x00' '\x7f')
  | "blank" => some (.union (.single '\t') (.single ' '))
  | "cntrl" => some (.union (.range '\x00' '\x1f') (.single '\x7f'))
  | "digit" => some asciiDigits
  | "graph" => some (.range '!' '~')
  | "lower" => some (.range 'a' 'z')
  | "print" => some (.range ' ' '~')
  | "punct" =>
      some (.unions [.range '!' '/', .range ':' '@', .range '[' '\x60',
        .range '\x7b' '~'])
  | "space" => some asciiBlanks
  | "upper" => some (.range 'A' 'Z')
  | "word" => some asciiWordChars
  | "xdigit" =>
      some (.unions [asciiDigits, .range 'a' 'f', .range 'A' 'F'])
  | _ => none

/-- A class named between colons inside a class, if there is one. -/
def scanNamedClass? : Scan (Option NamedClass) := do
  let before ← get
  let start ← offset
  let negated ←
    if ← takeText "[:^" then pure (some true)
    else if ← takeText "[:" then pure (some false)
    else pure none
  match negated with
  | none => return none
  | some negated =>
      let name ← takeWhile (· != ':')
      if ← takeText ":]" then
        match fixedMembers? (String.ofList name) with
        | some members =>
            return some ⟨.fixed members, negated, ← extentFrom start⟩
        | none =>
            set before
            return none
      else
        set before
        return none

/-- Hyphens at the start of a class, which stand for themselves. -/
def scanHyphens (start : Nat) : (bound : Nat) → Scan (List ClassTerm)
  | 0 => return []
  | bound + 1 => do
      if (← peek) == some '-' then
        let place ← offset
        step
        if ← atEnd then fail .classUnclosed start start
        return .literal ⟨'-', ⟨place, place + 1⟩, false⟩ ::
          (← scanHyphens start bound)
      else return []

/-- An opening bracket with what has a special place behind it. -/
def scanClassOpening (outer : ClassItems) :
    Scan (ClassFrame × ClassItems) := do
  let start ← offset
  step
  if ← atEnd then fail .classUnclosed start (← offset)
  let negated := (← peek) == some '^'
  if negated then
    step
    if ← atEnd then fail .classUnclosed start (← offset)
  let place ← offset
  let hyphens ← scanHyphens start ((← remaining) + 1)
  let items ←
    if hyphens.isEmpty && (← peek) == some ']' then
      step
      if ← atEnd then fail .classUnclosed start (← offset)
      pure [.literal ⟨']', ⟨place, place + 1⟩, false⟩]
    else pure hyphens
  return (.bracket outer negated (← extentFrom start), ⟨place, items⟩)

/-- An item of a class with its extent: a character, or a class of its own. -/
def scanClassItem : Scan (Primitive × Extent) := do
  let start ← offset
  match ← peek with
  | some '\\' =>
      let primitive ← scanEscape
      return (primitive, ← extentFrom start)
  | some char =>
      advance 1
      let extent ← extentFrom start
      return (.literal ⟨char, extent, false⟩, extent)
  | none => fail .escapeUnexpectedEnd start start

/-- The character that bounds a range. -/
def rangeBound (item : Primitive × Extent) : Scan Literal :=
  match item.1 with
  | .literal literal => return literal
  | _ => fail .classRangeLiteral item.2.start item.2.stop

/-- One item, or a range between two. -/
def scanClassRange (frames : List ClassFrame) : Scan ClassTerm := do
  let first ← scanClassItem
  skipSpace
  if ← atEnd then failUnclosed frames
  let behind ← peekBehind
  if (← peek) != some '-' || behind == some ']' || behind == some '-' then
    match first.1 with
    | .literal literal => return .literal literal
    | .named named => return .named named
    | .anchor _ => fail .classEscapeInvalid first.2.start first.2.stop
  else
    step
    if ← atEnd then failUnclosed frames
    let last ← scanClassItem
    let firstBound ← rangeBound first
    let lastBound ← rangeBound last
    if lastBound.char < firstBound.char then
      fail .classRangeInvalid first.2.start last.2.stop
    return .range firstBound lastBound

/-- Join a right side with the operator and the left side that wait for it. -/
def closeOperator (right : ClassTerm) :
    List ClassFrame → ClassTerm × List ClassFrame
  | .operator operator left :: frames =>
      (.operation operator left right, frames)
  | frames => (right, frames)

/-- The inside of a class, up to the bracket that closes the outermost one. -/
def scanClass : (bound : Nat) → List ClassFrame → ClassItems → Scan ClassTerm
  | 0, frames, _ => failUnclosed frames
  | bound + 1, frames, items => do
      skipSpace
      let behind := ((← get).rest.drop 1).head?
      let operate (operator : ClassOperator) : Scan ClassTerm := do
        advance 2
        let (left, frames) := closeOperator items.term frames
        scanClass bound (.operator operator left :: frames) ⟨← offset, []⟩
      let take : Scan ClassTerm := do
        scanClass bound frames (items.push (← scanClassRange frames))
      match ← peek with
      | none => failUnclosed frames
      | some '[' =>
          match ← scanNamedClass? with
          | some named => scanClass bound frames (items.push (.named named))
          | none =>
              let (frame, inner) ← scanClassOpening items
              scanClass bound (frame :: frames) inner
      | some ']' =>
          let (inner, frames) := closeOperator items.term frames
          match frames with
          | .bracket outer negated opening :: frames =>
              advance 1
              let term :=
                ClassTerm.bracketed negated inner (← extentFrom opening.start)
              if frames.isEmpty then return term
              else scanClass bound frames (outer.push term)
          | _ => failUnclosed frames
      | some '&' => if behind == some '&' then operate .intersection else take
      | some '-' => if behind == some '-' then operate .difference else take
      | some '~' =>
          if behind == some '~' then operate .symmetricDifference else take
      | some _ => take

end TreeQuery.Regex

import TreeQuery.Regex.Bracket
import TreeQuery.Unicode.Alphabetic

/-!
# Reading regular expressions

One pass over the text with a stack of open groups.  Every round takes at least
one character, so the length of the text bounds the number of rounds.
-/

namespace TreeQuery.Regex

open Scan

/-- A part of a branch, and where it starts. -/
structure Part where
  start : Nat
  term : Term

/-- What was read since the innermost open group started: whole branches, and
the parts of the branch that is being read.  Both are kept latest first. -/
structure Body where
  start : Nat
  branches : List Term
  branchStart : Nat
  parts : List Part

namespace Body

/-- Nothing read yet at a place. -/
def openedAt (start : Nat) : Body :=
  { start, branches := [], branchStart := start, parts := [] }

def push (body : Body) (start : Nat) (term : Term) : Body :=
  { body with parts := ⟨start, term⟩ :: body.parts }

/-- The branch that is being read, when it ends at `stop`. -/
def branch (body : Body) (stop : Nat) : Term :=
  .ofParts ⟨body.branchStart, stop⟩ (body.parts.reverse.map (·.term))

/-- End a branch before the bar at `stop`. -/
def nextBranch (body : Body) (stop : Nat) : Body :=
  { body with
    branches := body.branch stop :: body.branches
    branchStart := stop + 1
    parts := [] }

def term (body : Body) (stop : Nat) : Term :=
  .ofBranches ⟨body.start, stop⟩ (body.branch stop :: body.branches).reverse

end Body

/-- An open group: where it starts, the letters of its flags, whether it
captures, what was read around it, and whether blanks are ignored after it. -/
structure OpenGroup where
  start : Nat
  letters : List Char
  captures : Bool
  outer : Body
  ignoresSpace : Bool

def isNameChar (isFirst : Bool) (char : Char) : Bool :=
  if isFirst then char == '_' || Unicode.alphabetic.contains char
  else
    char == '_' || char == '.' || char == '[' || char == ']' ||
      Unicode.alphanumeric.contains char

/-- The characters of a group name. -/
def scanNameChars : (isFirst : Bool) → (bound : Nat) → Scan (List Char)
  | _, 0 => return []
  | isFirst, bound + 1 => do
      match ← peek with
      | none => fail .groupNameUnexpectedEnd (← offset) (← offset)
      | some '>' => return []
      | some char =>
          if !isNameChar isFirst char then
            fail .groupNameInvalid (← offset) ((← offset) + 1)
          advance 1
          return char :: (← scanNameChars false bound)

/-- A group name and the angle bracket behind it; no name occurs twice. -/
def scanGroupName : Scan Unit := do
  let start ← offset
  let name ← scanNameChars true ((← remaining) + 1)
  let stop ← offset
  advance 1
  if name.isEmpty then fail .groupNameEmpty start start
  match (← get).names.find? fun known => known.1 == name with
  | some known => failAgain .groupNameDuplicate start stop known.2
  | none =>
      modify fun scanner =>
        { scanner with names := (name, ⟨start, stop⟩) :: scanner.names }

/-- The letters of all flags. -/
def flagLetters : List Char :=
  ['i', 'm', 's', 'U', 'u', 'R', 'x']

/-- Flag letters up to a colon or a closing parenthesis.  Each letter, and the
minus, may occur once. -/
def scanFlagLetters : (bound : Nat) → List (Char × Nat) → Scan (List (Char × Nat))
  | 0, seen => return seen
  | bound + 1, seen => do
      let place ← offset
      match ← peek with
      | none => fail .flagUnexpectedEnd place place
      | some char =>
          if char = ':' ∨ char = ')' then
            match seen.getLast? with
            | some ('-', minus) => fail .flagDanglingNegation minus (minus + 1)
            | _ => return seen
          else
            if char ≠ '-' ∧ !flagLetters.contains char then
              fail .flagUnrecognized place (place + 1)
            match seen.find? fun known => known.1 == char with
            | some known =>
                failAgain
                  (if char = '-' then .flagRepeatedNegation else .flagDuplicate)
                  place (place + 1) ⟨known.2, known.2 + 1⟩
            | none =>
                advance 1
                scanFlagLetters bound (seen ++ [(char, place)])

/-- Are blanks ignored under flag letters, when `outer` says it of the text
around them? -/
def ignoresSpaceUnder (letters : List Char) (outer : Bool) : Bool :=
  if letters.contains 'x' then !(letters.takeWhile (· != 'x')).contains '-'
  else outer

/-- What an opening parenthesis starts. -/
inductive Opening where
  | flags (letters : List Char)
  | group (letters : List Char) (captures : Bool)

/-- An opening parenthesis with all that says which kind of group it starts. -/
def scanOpening : Scan Opening := do
  let start ← offset
  step
  for lookAround in ["?=", "?!", "?<=", "?<!"] do
    if ← takeText lookAround then
      fail .unsupportedLookAround start (← offset)
  let inside ← offset
  if (← takeText "?P<") || (← takeText "?<") then
    scanGroupName
    return .group [] true
  else if ← takeText "?" then
    if ← atEnd then fail .groupUnclosed start (start + 1)
    let letters := (← scanFlagLetters ((← remaining) + 1) []).map Prod.fst
    let closing ← peek
    advance 1
    if closing == some ')' then
      if letters.isEmpty then fail .repetitionMissing inside inside
      return .flags letters
    else return .group letters false
  else return .group [] true

/-- The last part, if it can be repeated, and the body without it.  Flags hold
for what follows and cannot be repeated. -/
def takeRepeated (body : Body) : Scan (Part × Body) :=
  match body.parts with
  | ⟨start, term⟩ :: parts =>
      match term with
      | .flags _ => do fail .repetitionMissing (← offset) (← offset)
      | _ => return (⟨start, term⟩, { body with parts })
  | [] => do fail .repetitionMissing (← offset) (← offset)

/-- A decimal number, or why there is none. -/
def scanCount : Scan (Except Fault Nat) := do
  let _ ← takeWhile Unicode.isBlank
  let start ← offset
  let digits ← takeSpaced Char.isDigit ((← remaining) + 1)
  let stop ← offset
  let _ ← takeSpaced Unicode.isBlank ((← remaining) + 1)
  let value := Nat.ofDigitChars 10 digits 0
  if digits.isEmpty then
    return .error ⟨.repetitionCountMissing, ⟨start, stop⟩, none⟩
  else if value < UInt32.size then return .ok value
  else return .error ⟨.decimalInvalid, ⟨start, stop⟩, none⟩

def orThrow : Except Fault α → Scan α
  | .ok value => return value
  | .error fault => throw fault

/-- Pass over the question mark that prefers short matches. -/
def skipLazy : Scan Unit := do
  if (← peek) == some '?' then advance 1

/-- A counted repetition of the last part. -/
def scanCounted (body : Body) : Scan Body := do
  let start ← offset
  let (part, body) ← takeRepeated body
  let unclosed : Scan Unit := do
    fail .repetitionCountUnclosed start (← offset)
  step
  if ← atEnd then unclosed
  let least ← scanCount
  if ← atEnd then unclosed
  let (least, most) ←
    if (← peek) == some ',' then
      step
      if ← atEnd then unclosed
      if (← peek) == some '}' then
        pure (← orThrow least, none)
      else
        let least ← orThrow least
        pure (least, some (← orThrow (← scanCount)))
    else
      let exact ← orThrow least
      pure (exact, some exact)
  if (← peek) != some '}' then unclosed
  step
  skipLazy
  match most with
  | some bound =>
      if bound < least then fail .repetitionCountInvalid start (← offset)
  | none => pure ()
  return body.push part.start
    (.repetition part.term least most (← extentFrom part.start))

/-- A repetition of the last part by one sign. -/
def scanRepeated (least : Nat) (most : Option Nat) (body : Body) :
    Scan Body := do
  let (part, body) ← takeRepeated body
  advance 1
  skipLazy
  return body.push part.start
    (.repetition part.term least most (← extentFrom part.start))

/-- A part that stands on its own. -/
def scanPrimitive (char : Char) : Scan Term := do
  let start ← offset
  match char with
  | '\\' =>
      match ← scanEscape with
      | .literal literal => return .literal literal
      | .named named => return .named named
      | .anchor anchor => return .anchor anchor
  | _ =>
      advance 1
      let extent ← extentFrom start
      match char with
      | '.' => return .dot extent
      | '^' => return .anchor .lineStart
      | '$' => return .anchor .lineEnd
      | _ => return .literal ⟨char, extent, false⟩

/-- The whole expression, given the open groups and what was read since the
innermost one started. -/
def scanAll : (bound : Nat) → List OpenGroup → Body → Scan Term
  | 0, _, body => return body.term (← offset)
  | bound + 1, groups, body => do
      skipSpace
      let start ← offset
      match ← peek with
      | none =>
          match groups with
          | [] => return body.term start
          | opened :: _ => fail .groupUnclosed opened.start (opened.start + 1)
      | some '(' =>
          let ignoresSpace ← ignoresSpace
          match ← scanOpening with
          | .flags letters =>
              setIgnoresSpace (ignoresSpaceUnder letters ignoresSpace)
              scanAll bound groups (body.push start (.flags letters))
          | .group letters captures =>
              setIgnoresSpace (ignoresSpaceUnder letters ignoresSpace)
              let opened : OpenGroup :=
                { start, letters, captures, outer := body, ignoresSpace }
              scanAll bound (opened :: groups) (.openedAt (← offset))
      | some ')' =>
          match groups with
          | [] => fail .groupUnopened start (start + 1)
          | opened :: groups =>
              setIgnoresSpace opened.ignoresSpace
              advance 1
              let term :=
                Term.group opened.letters opened.captures (body.term start)
                  (← extentFrom opened.start)
              scanAll bound groups (opened.outer.push opened.start term)
      | some '|' =>
          advance 1
          scanAll bound groups (body.nextBranch start)
      | some '[' =>
          let (frame, items) ← scanClassOpening ⟨start, []⟩
          let term ← scanClass ((← remaining) + 1) [frame] items
          scanAll bound groups (body.push start (.bracketed term))
      | some '?' => scanAll bound groups (← scanRepeated 0 (some 1) body)
      | some '*' => scanAll bound groups (← scanRepeated 0 none body)
      | some '+' => scanAll bound groups (← scanRepeated 1 none body)
      | some '{' => scanAll bound groups (← scanCounted body)
      | some char =>
          scanAll bound groups (body.push start (← scanPrimitive char))

/-- Read the text of an expression. -/
def Term.read (source : String) : Except Fault Term :=
  let chars := source.toList
  (scanAll (chars.length + 1) [] (.openedAt 0)).run'
    { rest := chars, offset := 0, ignoresSpace := false, names := [] }

end TreeQuery.Regex

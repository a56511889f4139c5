import TreeQuery.Regex
import TreeQuery.Unicode.Encoding

/-!
# The size of a matcher

A matcher is a machine of states that reads a text byte by byte, and it is kept
for both directions.  Its size follows from the expression alone, so one that
would grow too large can be refused before it is built.
-/

namespace TreeQuery.Regex

/-- The direction in which a matcher reads. -/
inductive Direction where
  | forward
  | backward
  deriving DecidableEq, Repr, Inhabited

/-- The room of a state. -/
def stateSize : Nat := 32

/-- The room of a range of bytes in a state that reads one of several. -/
def transitionSize : Nat := 8

/-- The room of a way out of a state that forks. -/
def branchSize : Nat := 4

/-- The size of the matcher for a part. -/
structure Size where
  bytes : Nat
  /-- Does the part end in a state that forks, so that going on takes room? -/
  forks : Bool
  /-- Its room among the branches of an expression. -/
  asBranch : Nat
  deriving DecidableEq, Repr, Inhabited

namespace Size

/-- The room for going on behind the part. -/
def link (size : Size) : Nat :=
  if size.forks then branchSize else 0

def part (bytes : Nat) (forks : Bool) : Size :=
  { bytes, forks
    asBranch := bytes + branchSize + if forks then branchSize else 0 }

end Size

/-- Rows of byte ranges put together by their first range, with the rests of the
rows that start with it. -/
def groupRows : List (List (Nat × Nat)) →
    List ((Nat × Nat) × List (List (Nat × Nat)))
  | [] => []
  | [] :: rows => groupRows rows
  | (first :: rest) :: rows =>
      match groupRows rows with
      | [] => [(first, [rest])]
      | (next, rests) :: groups =>
          if next = first then (first, rest :: rests) :: groups
          else (first, [rest]) :: (next, rests) :: groups

/-- The different sets of rows behind the starts of rows, up to a length. -/
def rowSets : (length : Nat) → List (List (List (Nat × Nat))) →
    List (List (List (Nat × Nat)))
  | 0, sets => sets
  | length + 1, sets =>
      let behind := (sets.flatMap groupRows).map Prod.snd |>.eraseDups
      sets ++ rowSets length (behind.filter fun rows => rows ≠ [[]])

/-- The number of different starts of rows, up to a length. -/
def countStarts : (length : Nat) → List (List (Nat × Nat)) → Nat
  | 0, _ => 0
  | length + 1, rows =>
      (groupRows rows).foldl
        (fun count group => count + 1 + countStarts length group.2) 0

/-- The longest encoding of a character in bytes. -/
def longestEncoding : Nat := 4

/-- The size for a set of characters that are not all in ASCII.  Forward, rows
with the same rest share its states; backward, rows share those of the same
start. -/
def wideSetSize (direction : Direction) (set : CharSet) : Nat :=
  let rows := set.byteRanges
  match direction with
  | .forward =>
      (rowSets longestEncoding [rows]).eraseDups.foldl
        (fun bytes rows =>
          bytes + stateSize + transitionSize * (groupRows rows).length)
        stateSize
  | .backward =>
      2 * stateSize + branchSize * rows.length +
        stateSize * countStarts longestEncoding rows

def setSize (direction : Direction) (set : CharSet) : Nat :=
  match set.ranges.toList with
  | [] => 2 * stateSize
  | [(first, last)] =>
      if first = last then stateSize * (Unicode.encode first).length
      else if last < 128 then 2 * stateSize + transitionSize
      else wideSetSize direction set
  | ranges =>
      if ranges.all fun range => range.2 < 128 then
        2 * stateSize + transitionSize * ranges.length
      else wideSetSize direction set

/-- Does every match have at least one character? -/
def consumes : Regex → Bool
  | empty => false
  | chars set => !set.ranges.isEmpty
  | assertion _ => false
  | concat first second => first.consumes || second.consumes
  | alternation first second => first.consumes && second.consumes
  | repetition inner least _ => 0 < least && inner.consumes
  | group inner => inner.consumes

/-- The size of a part that has to match exactly `count` times. -/
def exactSize (inner : Size) (count : Nat) : Size :=
  if count = 0 then .part stateSize false
  else .part (count * inner.bytes + (count - 1) * inner.link) inner.forks

/-- The size of a repetition; `consumes` says that its part has characters. -/
def repetitionSize (consumes : Bool) (inner : Size) (least : Nat) :
    Option Nat → Size
  | none =>
      let loop := stateSize + inner.bytes + inner.link + branchSize
      if least = 0 then
        if consumes then .part loop true
        else .part (loop + 2 * stateSize + 3 * branchSize) false
      else if least = 1 then .part loop true
      else
        .part ((exactSize inner (least - 1)).bytes + inner.link + loop) true
  | some most =>
      if least = 0 ∧ most = 1 then
        .part (2 * stateSize + 2 * branchSize + inner.bytes + inner.link) false
      else if least = most then exactSize inner least
      else
        let start := exactSize inner least
        let option := stateSize + 2 * branchSize + inner.bytes + inner.link
        .part (start.bytes + stateSize + start.link + (most - least) * option)
          false

/-- The size of the matcher for an expression, without what surrounds it. -/
def size (direction : Direction) : Regex → Size
  | empty => .part stateSize false
  | assertion _ => .part stateSize false
  | chars set => .part (setSize direction set) false
  | concat first second =>
      let first := size direction first
      let second := size direction second
      match direction with
      | .forward => .part (first.bytes + first.link + second.bytes) second.forks
      | .backward => .part (second.bytes + second.link + first.bytes) first.forks
  | alternation first second =>
      let branches :=
        (size direction first).asBranch + (size direction second).asBranch
      { bytes := 2 * stateSize + branches, forks := false, asBranch := branches }
  | repetition inner least most =>
      repetitionSize inner.consumes (size direction inner) least most
  | group inner =>
      let inner := size direction inner
      match direction with
      | .forward => .part (inner.bytes + 2 * stateSize + inner.link) false
      | .backward => inner

/-- The size of the whole matcher: it starts anywhere in a text, and forward it
marks where a match begins and ends. -/
def totalSize (direction : Direction) (regex : Regex) : Nat :=
  let size := regex.size direction
  let around := 4 * stateSize + 4 * branchSize
  match direction with
  | .forward => around + 2 * stateSize + size.bytes + size.link
  | .backward => around + size.bytes + size.link

/-- The size that a matcher may have in each direction. -/
def sizeLimit : Nat := 10485760

def tooLarge (regex : Regex) : Bool :=
  sizeLimit < regex.totalSize .forward || sizeLimit < regex.totalSize .backward

end TreeQuery.Regex

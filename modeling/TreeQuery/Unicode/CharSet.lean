/-!
# Sets of characters

A set is kept as closed ranges of code points, so membership is decided by
halving a table and a complement is the list of the gaps.
-/

namespace TreeQuery

/-- Closed ranges of code points, in increasing order and with gaps between
them. -/
structure CharSet where
  ranges : Array (Nat × Nat)
  deriving DecidableEq, Repr, Inhabited

namespace CharSet

/-- The largest code point. -/
def lastCode : Nat := 0x10FFFF

/-- Is `code` in one of the ranges from position `low` up to but not including
`high`?  Each step halves the part of the table that is left. -/
def containsWithin (ranges : Array (Nat × Nat)) (code : Nat) :
    Nat → (low high : Nat) → Bool
  | 0, _, _ => false
  | fuel + 1, low, high =>
      if low < high then
        let middle := (low + high) / 2
        match ranges[middle]? with
        | none => false
        | some (first, last) =>
            if code < first then containsWithin ranges code fuel low middle
            else if last < code then
              containsWithin ranges code fuel (middle + 1) high
            else true
      else false

def containsCode (set : CharSet) (code : Nat) : Bool :=
  containsWithin set.ranges code (set.ranges.size + 1) 0 set.ranges.size

def contains (set : CharSet) (char : Char) : Bool :=
  set.containsCode char.toNat

/-- Put one more range before ranges of which none starts further left. -/
def prependRange (range : Nat × Nat) : List (Nat × Nat) → List (Nat × Nat)
  | [] => [range]
  | next :: rest =>
      if next.1 ≤ range.2 + 1 then
        prependRange (range.1, max range.2 next.2) rest
      else range :: next :: rest

/-- The set of all code points in some ranges, which may overlap. -/
def ofRanges (ranges : List (Nat × Nat)) : CharSet :=
  let sorted := ranges.mergeSort fun left right => left.1 ≤ right.1
  ⟨(sorted.foldr prependRange []).toArray⟩

def range (first last : Char) : CharSet :=
  ⟨#[(first.toNat, last.toNat)]⟩

def single (char : Char) : CharSet :=
  range char char

def empty : CharSet := ⟨#[]⟩

def full : CharSet := ⟨#[(0, lastCode)]⟩

def unions (sets : List CharSet) : CharSet :=
  ofRanges (sets.flatMap fun set => set.ranges.toList)

def union (left right : CharSet) : CharSet :=
  unions [left, right]

/-- The gaps between ranges, from `start` on. -/
def gaps (start : Nat) : List (Nat × Nat) → List (Nat × Nat)
  | [] => if start ≤ lastCode then [(start, lastCode)] else []
  | (first, last) :: rest =>
      if start < first then (start, first - 1) :: gaps (last + 1) rest
      else gaps (last + 1) rest

def complement (set : CharSet) : CharSet :=
  ⟨(gaps 0 set.ranges.toList).toArray⟩

def intersection (left right : CharSet) : CharSet :=
  (left.complement.union right.complement).complement

def difference (left right : CharSet) : CharSet :=
  (left.complement.union right).complement

def symmetricDifference (left right : CharSet) : CharSet :=
  (left.difference right).union (right.difference left)

end CharSet

end TreeQuery

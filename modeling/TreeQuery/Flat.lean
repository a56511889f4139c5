import Std.Data.HashMap
import TreeQuery.Outline

/-!
# Flat records

The occurrences of an outline are numbered in the order of reading.  A record
tells how many of the records behind it lie below it, so the records below one
are a slice of the array.
-/

namespace TreeQuery

structure Record where
  /-- The position of the record in the array. -/
  id : Nat
  parent : Option Nat
  caption : Caption
  children : List Nat
  /-- The number of records below this one. -/
  range : Nat
  deriving DecidableEq, Repr, Inhabited

namespace Outline

mutual

/-- The number of occurrences. -/
def size : Outline → Nat
  | node _ children => sizeAll children + 1

def sizeAll : List Outline → Nat
  | [] => 0
  | outline :: outlines => outline.size + sizeAll outlines

end

/-- The positions of outlines that are listed from position `start` on. -/
def positions (start : Nat) : List Outline → List Nat
  | [] => []
  | outline :: outlines => start :: positions (start + outline.size) outlines

mutual

/-- The records of an outline, of which the first has the position `start`. -/
def records (parent : Option Nat) (start : Nat) : Outline → List Record
  | node caption children =>
      { id := start
        parent
        caption
        children := positions (start + 1) children
        range := sizeAll children } ::
      recordsAll (some start) (start + 1) children

def recordsAll (parent : Option Nat) (start : Nat) :
    List Outline → List Record
  | [] => []
  | outline :: outlines =>
      outline.records parent start ++
        recordsAll parent (start + outline.size) outlines

end

end Outline

/-- An array of records that name each other by their numbers. -/
structure Flat where
  records : Array Record
  deriving Repr, Inhabited

namespace Flat

/-- The records of outlines, one outline after the other. -/
def ofOutlines (outlines : List Outline) : Flat :=
  ⟨(Outline.recordsAll none 0 outlines).toArray⟩

def size (flat : Flat) : Nat :=
  flat.records.size

def get? (flat : Flat) (id : Nat) : Option Record :=
  flat.records[id]?

/-- The records without a parent, in order. -/
def roots (flat : Flat) : List Record :=
  flat.records.toList.filter fun record => record.parent.isNone

/-- The records below a record. -/
def subtree (flat : Flat) (id : Nat) : List Record :=
  match flat.get? id with
  | some record => (flat.records.toList.drop (id + 1)).take record.range
  | none => []

/-- Follow the parents of a record, at most `bound` of them. -/
def ancestorsWithin (flat : Flat) : (bound : Nat) → Nat → List Nat
  | 0, _ => []
  | bound + 1, id =>
      match flat.get? id with
      | none => []
      | some record =>
          record.id ::
            match record.parent with
            | some parent => flat.ancestorsWithin bound parent
            | none => []

/-- A record and all those it lies in, from the inside out. -/
def ancestors (flat : Flat) (id : Nat) : List Nat :=
  flat.ancestorsWithin flat.size id

/-- Put the number of a record behind the others of its target. -/
def enter (index : Std.HashMap Target (Array Nat)) (record : Record) :
    Std.HashMap Target (Array Nat) :=
  index.insert record.caption.target
    ((index.getD record.caption.target #[]).push record.id)

/-- Where each target is shown, entered record by record. -/
def byTarget (flat : Flat) : Std.HashMap Target (Array Nat) :=
  flat.records.foldl enter {}

/-- The records that show a target, in order. -/
def recordsFor (flat : Flat) (target : Target) : List Nat :=
  (flat.byTarget.getD target #[]).toList

end Flat

end TreeQuery

import TreeQuery.Regex
import TreeQuery.Regex.Fault
import TreeQuery.Unicode.Named

/-!
# Expressions as they are written

A term keeps the parts of an expression apart as they stand in its text.  What
a part matches also depends on flags, so a term has no meaning of its own; its
extents say what to blame if it has none at all.
-/

namespace TreeQuery.Regex

/-- A character that stands for itself. -/
structure Literal where
  char : Char
  extent : Extent
  /-- Is it given as a byte, by two hexadecimal digits? -/
  isByte : Bool
  deriving DecidableEq, Repr, Inhabited

/-- What a class with a name is named by. -/
inductive ClassName where
  | digits
  | blanks
  | wordChars
  /-- A name between colons always stands for the same members. -/
  | fixed (members : CharSet)
  | property (name : Unicode.SetName)
  deriving Repr, Inhabited

structure NamedClass where
  name : ClassName
  negated : Bool
  extent : Extent
  deriving Repr, Inhabited

/-- A condition on a place.  Flags decide what a line and a word are. -/
inductive Anchor where
  | textStart
  | textEnd
  | lineStart
  | lineEnd
  | word (edge : WordEdge)
  deriving DecidableEq, Repr, Inhabited

/-- How two sets in a class are combined. -/
inductive ClassOperator where
  | intersection
  | difference
  | symmetricDifference
  deriving DecidableEq, Repr, Inhabited

def ClassOperator.apply : ClassOperator → CharSet → CharSet → CharSet
  | intersection => .intersection
  | difference => .difference
  | symmetricDifference => .symmetricDifference

/-- What stands between brackets, or a class in brackets itself. -/
inductive ClassTerm where
  | empty (extent : Extent)
  | literal (written : Literal)
  | range (first last : Literal)
  | named (written : NamedClass)
  | bracketed (negated : Bool) (inner : ClassTerm) (extent : Extent)
  | union (items : List ClassTerm) (extent : Extent)
  | operation (operator : ClassOperator) (left right : ClassTerm)
  deriving Repr, Inhabited

namespace ClassTerm

def start : ClassTerm → Nat
  | empty extent => extent.start
  | literal written => written.extent.start
  | range first _ => first.extent.start
  | named written => written.extent.start
  | bracketed _ _ extent => extent.start
  | union _ extent => extent.start
  | operation _ left _ => left.start

def stop : ClassTerm → Nat
  | empty extent => extent.stop
  | literal written => written.extent.stop
  | range _ last => last.extent.stop
  | named written => written.extent.stop
  | bracketed _ _ extent => extent.stop
  | union _ extent => extent.stop
  | operation _ _ right => right.stop

def extent (term : ClassTerm) : Extent :=
  ⟨term.start, term.stop⟩

/-- Items that stand side by side.  If there are none, `place` is where they
would be. -/
def ofItems (place : Nat) : List ClassTerm → ClassTerm
  | [] => empty ⟨place, place⟩
  | [only] => only
  | first :: rest =>
      union (first :: rest) ⟨first.start, (rest.getLastD first).stop⟩

end ClassTerm

inductive Term where
  | empty
  /-- Letters of flags for all that follows, those behind a minus being
  cleared. -/
  | flags (letters : List Char)
  | literal (written : Literal)
  | dot (extent : Extent)
  | anchor (anchor : Anchor)
  | named (written : NamedClass)
  | bracketed (term : ClassTerm)
  /-- At least `least` and, if `most` is given, at most that many times. -/
  | repetition (inner : Term) (least : Nat) (most : Option Nat) (extent : Extent)
  /-- A group, with the letters of flags inside it. -/
  | group (letters : List Char) (captures : Bool) (inner : Term)
      (extent : Extent)
  | alternation (branches : List Term) (extent : Extent)
  | concat (parts : List Term) (extent : Extent)
  deriving Repr, Inhabited

namespace Term

/-- Parts one after the other. -/
def ofParts (extent : Extent) : List Term → Term
  | [] => empty
  | [only] => only
  | parts => concat parts extent

def ofBranches (extent : Extent) : List Term → Term
  | [] => empty
  | [only] => only
  | branches => alternation branches extent

end Term

end TreeQuery.Regex

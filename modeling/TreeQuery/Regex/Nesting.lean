import TreeQuery.Regex.Term

/-!
# How deep expressions are nested

Groups, repetitions, branches and sequences count as levels, and so do the parts
of classes that hold others.  The first part below the deepest level allowed is
the one to blame.
-/

namespace TreeQuery.Regex

/-- The number of levels that an expression may have. -/
def deepestLevel : Nat := 250

namespace ClassTerm

mutual

/-- The first part of a class that lies deeper than `levels` below it. -/
def tooDeep? : (levels : Nat) → ClassTerm → Option Extent
  | 0, bracketed _ _ extent => some extent
  | levels + 1, bracketed _ inner _ => tooDeep? levels inner
  | 0, union _ extent => some extent
  | levels + 1, union items _ => tooDeepAmong? levels items
  | 0, operation operator left right => some (operation operator left right).extent
  | levels + 1, operation _ left right =>
      tooDeep? levels left <|> tooDeep? levels right
  | _, _ => none

def tooDeepAmong? : (levels : Nat) → List ClassTerm → Option Extent
  | _, [] => none
  | levels, item :: items =>
      tooDeep? levels item <|> tooDeepAmong? levels items

end

end ClassTerm

namespace Term

mutual

/-- The first part that lies deeper than `levels` below an expression. -/
def tooDeep? : (levels : Nat) → Term → Option Extent
  | levels, bracketed term => term.tooDeep? levels
  | 0, repetition _ _ _ extent => some extent
  | levels + 1, repetition inner _ _ _ => tooDeep? levels inner
  | 0, group _ _ _ extent => some extent
  | levels + 1, group _ _ inner _ => tooDeep? levels inner
  | 0, alternation _ extent => some extent
  | levels + 1, alternation branches _ => tooDeepAmong? levels branches
  | 0, concat _ extent => some extent
  | levels + 1, concat parts _ => tooDeepAmong? levels parts
  | _, _ => none

def tooDeepAmong? : (levels : Nat) → List Term → Option Extent
  | _, [] => none
  | levels, term :: terms =>
      tooDeep? levels term <|> tooDeepAmong? levels terms

end

/-- The term itself, unless it has too many levels. -/
def withinDepth (term : Term) : Except Fault Term :=
  match term.tooDeep? deepestLevel with
  | none => .ok term
  | some extent => .error ⟨.nestedTooDeep deepestLevel, extent, none⟩

end Term

end TreeQuery.Regex

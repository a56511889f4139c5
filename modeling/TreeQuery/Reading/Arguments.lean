import TreeQuery.Reading.Rule

/-!
# Rules for lists between delimiters

Items are separated by commas and the last one may be followed by a comma.  The
arguments of a constructor are items, then items with a name.
-/

namespace TreeQuery.Reading

/-- An argument on its own. -/
inductive Argument (ν τ : Type) where
  | positional (value : τ)
  | named (name : ν) (value : τ)

namespace Argument

def positional? : Argument ν τ → Option τ
  | positional value => some value
  | named _ _ => none

def named? : Argument ν τ → Option (ν × τ)
  | positional _ => none
  | named name value => some (name, value)

end Argument

/-- The places of the positional arguments that follow a named one. -/
def misplaced : (namedBefore : Bool) → List (Argument ν τ × Nat) → List Nat
  | _, [] => []
  | namedBefore, (.positional _, start) :: rest =>
      if namedBefore then start :: misplaced namedBefore rest
      else misplaced namedBefore rest
  | _, (.named _ _, _) :: rest => misplaced true rest

namespace Rule

/-- Items between two delimiters. -/
def delimitedList (opening closing : Token.Kind) (item : Rule α) :
    Rule (List α) :=
  (item.separatedList (token .comma)).between opening closing

/-- An item followed by a colon and another item. -/
def entry (item : Rule τ) : Rule (τ × τ) :=
  (item.thenSkip (token .colon)).andThen item

/-- A name that cannot stand alone as an item, and its item. -/
def namedArgument (name : Rule ν) (item : Rule τ) : Rule (Argument ν τ) :=
  ((name.thenSkip (token .equals)).andThen item).map fun (name, value) =>
    .named name value

/-- An item; if an equals sign follows, the item has to be a name itself. -/
def itemArgument (item : Rule τ) (asName : τ → Option ν) :
    Rule (Argument ν τ) :=
  (item.andThen ((token .equals).skipThen item).optional).located.inspect
    fun ((left, right), start) =>
      match right with
      | none => (.positional left, [])
      | some value =>
          match asName left with
          | some name => (.named name value, [])
          | none => (.positional left, [(start, .invalidFieldName)])

/-- Positional arguments and then named ones, in parentheses. -/
def arguments (name : Rule ν) (item : Rule τ) (asName : τ → Option ν) :
    Rule (List τ × List (ν × τ)) :=
  (delimitedList .openParen .closeParen
    ((namedArgument name item).orElse (itemArgument item asName)).located).inspect
    fun found =>
      ((found.filterMap (·.1.positional?), found.filterMap (·.1.named?)),
        (misplaced false found).map fun start => (start, .positionalAfterNamed))

end Rule

end TreeQuery.Reading

import TreeQuery.Regex.Flags

/-!
# The meaning of written expressions

Flags are set from left to right while a term is turned into sets of characters
and assertions.  A part that has no meaning under its flags is a fault.
-/

namespace TreeQuery.Regex

/-- A step of finding a meaning, under flags that it may set for what follows. -/
abbrev Meaning (α : Type) : Type := StateT Flags (Except Fault) α

namespace Meaning

def fail (flaw : Flaw) (extent : Extent) : Meaning α :=
  throw ⟨flaw, extent, none⟩

end Meaning

open Meaning

/-- A byte that is no character of its own has no meaning without Unicode. -/
def Literal.meaning (literal : Literal) : Meaning Char := do
  if !(← get).unicode && literal.isByte && literal.char.toNat ≥ 128 then
    fail .invalidUtf8 literal.extent
  return literal.char

/-- A character of a class, which has to be in ASCII without Unicode. -/
def Literal.member (literal : Literal) : Meaning Char := do
  let char ← literal.meaning
  if !(← get).unicode && char.toNat ≥ 128 then
    fail .unicodeNotAllowed literal.extent
  return char

/-- The set without what differs in case, and its complement if `negated`.
Without Unicode a complement holds bytes that are no characters. -/
def foldAndNegate (negated : Bool) (extent : Extent) (set : CharSet) :
    Meaning CharSet := do
  let flags ← get
  if negated && !flags.unicode then fail .invalidUtf8 extent
  let set := flags.fold set
  return if negated then set.complement else set

def NamedClass.members (named : NamedClass) : Meaning CharSet := do
  let flags ← get
  let set ←
    match named.name with
    | .digits => pure flags.digits
    | .blanks => pure flags.blanks
    | .wordChars => pure flags.wordChars
    | .fixed members => pure members
    | .property name =>
        if !flags.unicode then fail .unicodeNotAllowed named.extent
        match name.set? with
        | .ok set => pure set
        | .error .property => fail .unicodePropertyNotFound named.extent
        | .error .value => fail .unicodeValueNotFound named.extent
  foldAndNegate named.negated named.extent set

namespace ClassTerm

mutual

def members : ClassTerm → Meaning CharSet
  | empty _ => return .empty
  | literal written => return .single (← written.member)
  | range first last => return .range (← first.member) (← last.member)
  | named written => written.members
  | bracketed negated inner extent => do
      foldAndNegate negated extent (← members inner)
  | union items _ => return .unions (← membersOfAll items)
  | operation operator left right => do
      let left ← members left
      let right ← members right
      let flags ← get
      return operator.apply (flags.fold left) (flags.fold right)

def membersOfAll : List ClassTerm → Meaning (List CharSet)
  | [] => return []
  | item :: items => return (← members item) :: (← membersOfAll items)

end

end ClassTerm

namespace Term

mutual

def meaning : Term → Meaning Regex
  | empty => return .empty
  | flags letters => do
      modify (·.setAll true letters)
      return .empty
  | literal written => do
      let char ← written.meaning
      return .chars ((← get).fold (.single char))
  | dot extent => do
      let flags ← get
      if !flags.unicode then fail .invalidUtf8 extent
      return .chars flags.dot
  | anchor written => return .assertion ((← get).assertion written)
  | named written => return .chars (← written.members)
  | bracketed term => return .chars (← term.members)
  | repetition inner least most _ =>
      return repeated (← meaning inner) least most
  | group letters captures inner _ => do
      let outer ← get
      modify (·.setAll true letters)
      let regex ← meaning inner
      set outer
      return if captures then .group regex else regex
  | alternation branches _ => return choice (← meaningOfAll branches)
  | concat parts _ => return sequence (← meaningOfAll parts)

def meaningOfAll : List Term → Meaning (List Regex)
  | [] => return []
  | term :: terms => return (← meaning term) :: (← meaningOfAll terms)

end

/-- The expression that a term stands for. -/
def regex (term : Term) : Except Fault Regex :=
  term.meaning.run' .standard

end Term

end TreeQuery.Regex

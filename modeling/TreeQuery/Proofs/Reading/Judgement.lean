import TreeQuery.Proofs.Reading.Pieces
import TreeQuery.Proofs.Related

/-!
# What offends in a text

The words of the grammar with everything left out that is only checked behind it,
each with the tokens at which it offends: expressions that do not compile,
arguments of which the left side is no name, and arguments without a name behind
an argument with one.  A word offends in one way only.
-/

namespace TreeQuery.Reading

/-- Words, each with the tokens at which it offends. -/
abbrev Judgement : Type := List Token → List Token → Prop

/-- An argument, whether it has a name, and the tokens at which it offends. -/
structure ArgumentParts where
  tokens : List Token
  named : Bool
  offences : List Token

/-- The first tokens of the arguments that have no name and stand behind one that
has. -/
def strays : (namedBefore : Bool) → List ArgumentParts → List Token
  | _, [] => []
  | namedBefore, argument :: rest =>
      (if namedBefore && !argument.named then argument.tokens.take 1 else []) ++
        strays (namedBefore || argument.named) rest

namespace Judgement

/-- Words in which nothing offends. -/
def clear (language : Language Token) : Judgement := fun word offences =>
  word ∈ language ∧ offences = []

/-- One token, which offends if it is an expression that does not compile. -/
inductive single (compiles : String → Prop) (kinds : List Token.Kind) :
    List Token → List Token → Prop where
  | fair {token : Token} :
      token.kind ∈ kinds → (token.kind = .regex → compiles token.body) →
      single compiles kinds [token] []
  | broken {token : Token} :
      token.kind ∈ kinds → token.kind = .regex → ¬compiles token.body →
      single compiles kinds [token] [token]

/-- A word and another one behind it. -/
def andThen (first second : Judgement) : Judgement := fun word offences =>
  ∃ left right before after, word = left ++ right ∧
    offences = before ++ after ∧ first left before ∧ second right after

def either (first second : Judgement) : Judgement := fun word offences =>
  first word offences ∨ second word offences

/-- Items between delimiters. -/
def enclosed (opening closing : Token.Kind) (item : Judgement) : Judgement :=
  fun word offences => ∃ items : List (List Token × List Token),
    Enclosed opening closing (items.map Prod.fst) word ∧
    (∀ piece ∈ items, item piece.1 piece.2) ∧
    offences = items.flatMap Prod.snd

/-- Items with bars between them. -/
def chained (item : Judgement) : Judgement := fun word offences =>
  ∃ items : List (List Token × List Token),
    Chained .alternation (items.map Prod.fst) word ∧
    (∀ piece ∈ items, item piece.1 piece.2) ∧
    offences = items.flatMap Prod.snd

/-- An argument, whether it has a name, and the tokens at which it offends. -/
inductive argument (dialect : Dialect) (item : Judgement) :
    List Token → Bool → List Token → Prop where
  /-- An identifier, an equals sign and an item. -/
  | field {name equals : Token} {word offences : List Token} :
      name.kind = .identifier → equals.kind = .equals → item word offences →
      argument dialect item (name :: equals :: word) true offences
  | positional {word offences : List Token} :
      item word offences → argument dialect item word false offences
  /-- Before the equals sign stands an item that spells a name. -/
  | named {left right before after : List Token} {equals : Token} :
      item left before → equals.kind = .equals → item right after →
      left ∈ ofKinds dialect.names →
      argument dialect item (left ++ equals :: right) true (before ++ after)
  /-- Before the equals sign stands another item, which offends. -/
  | misnamed {left right before after : List Token} {equals : Token} :
      item left before → equals.kind = .equals → item right after →
      left ∉ ofKinds dialect.names →
      argument dialect item (left ++ equals :: right) false
        (before ++ after ++ left.take 1)

/-- Arguments in parentheses, in any order. -/
def arguments (dialect : Dialect) (item : Judgement) : Judgement :=
  fun word offences => ∃ parts : List ArgumentParts,
    Enclosed .openParen .closeParen (parts.map ArgumentParts.tokens) word ∧
    (∀ part ∈ parts, argument dialect item part.tokens part.named part.offences) ∧
    offences = parts.flatMap ArgumentParts.offences ++ strays false parts

section

variable (compiles : String → Prop) (dialect : Dialect)

def branch (item : Judgement) : Branch → Judgement
  | .call names => andThen (single compiles names) (arguments dialect item)
  | .leaf kinds => single compiles kinds
  | .entries => enclosed .openParen .closeParen
      (andThen (andThen item (clear (ofKinds [.colon]))) item)
  | .items opening closing => enclosed opening closing item
  | .location => clear (ofKinds [.location] * (1 + sourceSpan))

/-- An item by one of the branches. -/
def atom (item : Judgement) : Judgement := fun word offences =>
  ∃ way ∈ dialect.branches, branch compiles dialect item way word offences

/-- An atom with a star before it, or maybe with one behind it. -/
def term (atom : Judgement) : Judgement :=
  either (andThen (clear (ofKinds [.star])) atom)
    (andThen atom (clear (1 + ofKinds [.star])))

/-- An item, given the items inside.  A pattern may have stars and bars. -/
def item : Dialect → Judgement → Judgement
  | .value, inner => atom compiles .value inner
  | .pattern, inner => chained (term (atom compiles .pattern inner))

/-- Items that are nested less deep. -/
def within : (depth : Nat) → Judgement
  | 0 => fun _ _ => False
  | depth + 1 => item compiles dialect (within depth)

end

end Judgement

/-- The tokens derive in the grammar without the checks behind it, and offend
there. -/
def Offends (compiles : String → Prop) (dialect : Dialect) : Judgement :=
  fun tokens offences =>
    ∃ depth, Judgement.within compiles dialect depth tokens offences

/-! ## Words and their parts -/

section

variable {first second item : Language Token} {opening closing : Token.Kind}
  {left left' right right' tokens piece : List Token}
  {pieces pieces' : List (List Token)}

/-- A word of the product falls into its factors in one way. -/
theorem Separated.eq_of_append (separated : Separated first second)
    (member : left ∈ first) (member' : left' ∈ first) (inside : right ∈ second)
    (inside' : right' ∈ second) (same : left ++ right = left' ++ right') :
    left = left' ∧ right = right' := by
  have longer {left left' right right' : List Token} (member : left ∈ first)
      (member' : left' ∈ first) (inside : right ∈ second)
      {more : List Token} (split : left' = left ++ more)
      (rest : right = more ++ right') : more = [] := by
    cases more with
    | nil => rfl
    | cons token more =>
        subst split rest
        exact (separated.stop member (viable_of_mem member')
          (viable_of_mem inside)).elim
  rcases List.append_eq_append_iff.mp same with ⟨more, split, rest⟩ | ⟨more, split, rest⟩
  · obtain rfl := longer member member' inside split rest
    simpa using And.intro split.symm rest
  · obtain rfl := longer member' member inside' split rest
    simpa using And.intro split rest.symm

/-- Behind the first piece a list ends, or a comma and another list follow. -/
theorem Listed.exists_rest (listed : Listed (piece :: pieces) tokens) :
    ∃ rest, tokens = piece ++ rest ∧ (pieces = [] ∧ rest = [] ∨
      ∃ comma inner, rest = comma :: inner ∧ comma.kind = .comma ∧
        Listed pieces inner) := by
  cases listed with
  | last => exact ⟨[], by simp, .inl ⟨rfl, rfl⟩⟩
  | trailing _ kind => exact ⟨_, rfl, .inr ⟨_, _, rfl, kind, .empty⟩⟩
  | more _ kind later => exact ⟨_, rfl, .inr ⟨_, _, rfl, kind, later⟩⟩

theorem Chained.exists_rest {separator : Token.Kind}
    (chained : Chained separator (piece :: pieces) tokens) :
    ∃ rest, tokens = piece ++ rest ∧ (pieces = [] ∧ rest = [] ∨
      ∃ found inner, rest = found :: inner ∧ found.kind = separator ∧
        Chained separator pieces inner) := by
  cases chained with
  | last => exact ⟨[], by simp, .inl ⟨rfl, rfl⟩⟩
  | more _ kind later => exact ⟨_, rfl, .inr ⟨_, _, rfl, kind, later⟩⟩

end

end TreeQuery.Reading

import TreeQuery.Proofs.Pattern.Grammar
import TreeQuery.Proofs.Related

/-!
# The expressions of a pattern

A pattern contains expressions of its own and in the names of constructors and
of named children.  What derives contains no expression that does not compile.
-/

namespace TreeQuery.Pattern

open Reading

/-- The expression stands somewhere in the pattern. -/
inductive Contains : Pattern → RegexPattern → Prop where
  | regex {expression : RegexPattern} : Contains (regex expression) expression
  | option {options : List Pattern} {inner : Pattern}
      {expression : RegexPattern} :
      inner ∈ options → Contains inner expression →
      Contains (or options) expression
  | repeated {inner : Pattern} {expression : RegexPattern} :
      Contains inner expression → Contains (repeated inner) expression
  | key {pairs : List (Pattern × Pattern)} {key value : Pattern}
      {expression : RegexPattern} :
      (key, value) ∈ pairs → Contains key expression →
      Contains (map pairs) expression
  | value {pairs : List (Pattern × Pattern)} {key value : Pattern}
      {expression : RegexPattern} :
      (key, value) ∈ pairs → Contains value expression →
      Contains (map pairs) expression
  | list {items : List Pattern} {inner : Pattern} {expression : RegexPattern} :
      inner ∈ items → Contains inner expression →
      Contains (list items) expression
  | set {items : List Pattern} {inner : Pattern} {expression : RegexPattern} :
      inner ∈ items → Contains inner expression →
      Contains (set items) expression
  | tuple {items : List Pattern} {inner : Pattern} {expression : RegexPattern} :
      inner ∈ items → Contains inner expression →
      Contains (tuple items) expression
  | name {positional : List Pattern} {named : List (NamePattern × Pattern)}
      {expression : RegexPattern} :
      Contains (constr (.regex expression) positional named) expression
  | positional {name : NamePattern} {positional : List Pattern}
      {named : List (NamePattern × Pattern)} {inner : Pattern}
      {expression : RegexPattern} :
      inner ∈ positional → Contains inner expression →
      Contains (constr name positional named) expression
  | fieldName {name : NamePattern} {positional : List Pattern}
      {named : List (NamePattern × Pattern)} {inner : Pattern}
      {expression : RegexPattern} :
      (.regex expression, inner) ∈ named →
      Contains (constr name positional named) expression
  | field {name fieldName : NamePattern} {positional : List Pattern}
      {named : List (NamePattern × Pattern)} {inner : Pattern}
      {expression : RegexPattern} :
      (fieldName, inner) ∈ named → Contains inner expression →
      Contains (constr name positional named) expression

section

variable {readRegex : RegexReader} {tokens : List Token} {pattern : Pattern}
  {expression : RegexPattern} {pieces : List (List Token)}

theorem DerivesRegex.compiled
    (derived : DerivesRegex readRegex tokens expression) :
    expression.regex ≠ none := by
  obtain ⟨token, regex, -, -, -, rfl⟩ := derived
  exact Option.some_ne_none regex

/-- Without bars and stars around it a pattern is an atom. -/
theorem Derives.atom (derived : Derives readRegex tokens pattern)
    (single : ∀ options, pattern ≠ .or options)
    (plain : ∀ inner, pattern ≠ .repeated inner) :
    DerivesAtom readRegex tokens pattern := by
  rcases derived.atom_cases single with ⟨atom, -⟩ | ⟨_, _, inner, same, -⟩
  · exact atom
  · exact absurd same (plain inner)

theorem DerivesPairs.exists_mem {pairs : List (Pattern × Pattern)}
    {key value : Pattern} (derived : DerivesPairs readRegex pieces pairs)
    (member : (key, value) ∈ pairs) :
    (∃ piece, Derives readRegex piece key) ∧
      ∃ piece, Derives readRegex piece value := by
  obtain ⟨_, -, left, _, right, -, -, first, second⟩ :=
    exists_mem_of_forall₂ (derivesPairs_iff_forall₂.mp derived) _ member
  exact ⟨⟨left, first⟩, right, second⟩

theorem DerivesFields.exists_mem {fields : List (NamePattern × Pattern)}
    {name : NamePattern} {value : Pattern}
    (derived : DerivesFields readRegex pieces fields)
    (member : (name, value) ∈ fields) :
    (∃ piece, DerivesFieldName readRegex piece name) ∧
      ∃ piece, Derives readRegex piece value := by
  obtain ⟨_, -, left, _, right, -, -, first, second⟩ :=
    exists_mem_of_forall₂ (derivesFields_iff_forall₂.mp derived) _ member
  exact ⟨⟨left, first⟩, right, second⟩

theorem Derives.exists_repeated {inner : Pattern}
    (derived : Derives readRegex tokens (repeated inner)) :
    ∃ piece, Derives readRegex piece inner := by
  rcases derived.atom_cases nofun with ⟨-, plain⟩ | ⟨_, piece, _, same, -, atom, -⟩
  · exact absurd rfl (plain inner)
  · cases same
    exact ⟨piece, .term (.atom atom)⟩

/-- Every expression that a derived pattern contains is there. -/
theorem Contains.compiled (contains : pattern.Contains expression)
    (derived : Derives readRegex tokens pattern) : expression.regex ≠ none := by
  induction contains generalizing tokens with
  | regex =>
      cases derived.atom nofun nofun with
      | regex read => exact read.compiled
  | option member _ induction =>
      cases derived with
      | or _ all =>
          obtain ⟨piece, -, found⟩ := exists_mem_of_forall₂ all _ member
          exact induction (.term found)
      | term found =>
          cases found with
          | atom atom => cases atom
  | repeated _ induction =>
      obtain ⟨piece, inside⟩ := derived.exists_repeated
      exact induction inside
  | key member _ induction =>
      cases derived.atom nofun nofun with
      | map _ pairs =>
          obtain ⟨piece, inside⟩ := (pairs.exists_mem member).1
          exact induction inside
  | value member _ induction =>
      cases derived.atom nofun nofun with
      | map _ pairs =>
          obtain ⟨piece, inside⟩ := (pairs.exists_mem member).2
          exact induction inside
  | list member _ induction =>
      cases derived.atom nofun nofun with
      | list _ all =>
          obtain ⟨piece, -, inside⟩ := exists_mem_of_forall₂ all _ member
          exact induction inside
  | set member _ induction =>
      cases derived.atom nofun nofun with
      | set _ all =>
          obtain ⟨piece, -, inside⟩ := exists_mem_of_forall₂ all _ member
          exact induction inside
  | tuple member _ induction =>
      cases derived.atom nofun nofun with
      | tuple _ all =>
          obtain ⟨piece, -, inside⟩ := exists_mem_of_forall₂ all _ member
          exact induction inside
  | name =>
      cases derived.atom nofun nofun with
      | constr name =>
          cases name with
          | regex read => exact read.compiled
  | positional member _ induction =>
      cases derived.atom nofun nofun with
      | constr _ _ all =>
          obtain ⟨piece, -, inside⟩ := exists_mem_of_forall₂ all _ member
          exact induction inside
  | fieldName member =>
      cases derived.atom nofun nofun with
      | constr _ _ _ fields =>
          obtain ⟨piece, name⟩ := (fields.exists_mem member).1
          cases name with
          | regex read => exact read.compiled
  | field member _ induction =>
      cases derived.atom nofun nofun with
      | constr _ _ _ fields =>
          obtain ⟨piece, inside⟩ := (fields.exists_mem member).2
          exact induction inside

end

end TreeQuery.Pattern

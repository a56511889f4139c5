import TreeQuery.Pattern.Reader
import TreeQuery.Proofs.Reading.Arguments
import TreeQuery.Proofs.Reading.Chains
import TreeQuery.Proofs.Reading.Scalar

/-!
# The grammar of patterns

A pattern is a term or an alternation of terms, a term is an atom with or
without a star, and atoms are wildcards, scalars, collections and constructors.
The reader of expressions is any function that accepts some bodies and refuses
the others.
-/

namespace TreeQuery

open Reading

namespace Pattern

section

variable (readRegex : RegexReader)

/-- An expression whose body can be read. -/
def DerivesRegex (tokens : List Token) (expression : RegexPattern) : Prop :=
  ∃ token regex, tokens = [token] ∧ token.kind = .regex ∧
    readRegex token.body = .ok regex ∧ expression = ⟨token.body, some regex⟩

/-- The name of a constructor. -/
inductive DerivesName : List Token → NamePattern → Prop where
  | identifier {tokens : List Token} {name : String} :
      DerivesToken .identifier Token.written tokens name →
      DerivesName tokens (.identifier name)
  | quoted {tokens : List Token} {name : String} :
      DerivesToken .string (fun token => (Text.decode token.body).plain) tokens
        name →
      DerivesName tokens (.quoted name)
  | regex {tokens : List Token} {expression : RegexPattern} :
      DerivesRegex readRegex tokens expression →
      DerivesName tokens (.regex expression)
  | text {tokens : List Token} {part : Text} :
      DerivesToken .text (fun token => Text.decode token.body) tokens part →
      DerivesName tokens (.text part)

/-- The name of a named child: an identifier, or a pattern that is one regex or
text token. -/
inductive DerivesFieldName : List Token → NamePattern → Prop where
  | identifier {tokens : List Token} {name : String} :
      DerivesToken .identifier Token.written tokens name →
      DerivesFieldName tokens (.identifier name)
  | regex {tokens : List Token} {expression : RegexPattern} :
      DerivesRegex readRegex tokens expression →
      DerivesFieldName tokens (.regex expression)
  | text {tokens : List Token} {part : Text} :
      DerivesToken .text (fun token => Text.decode token.body) tokens part →
      DerivesFieldName tokens (.text part)

mutual

/-- One term, or several with bars between them. -/
inductive Derives : List Token → Pattern → Prop where
  | term {tokens : List Token} {pattern : Pattern} :
      DerivesTerm tokens pattern → Derives tokens pattern
  | or {tokens first second : List Token} {pieces : List (List Token)}
      {options : List Pattern} :
      Chained .alternation (first :: second :: pieces) tokens →
      List.Forall₂ DerivesTerm (first :: second :: pieces) options →
      Derives tokens (or options)

/-- An atom, maybe with one star on either side. -/
inductive DerivesTerm : List Token → Pattern → Prop where
  | atom {tokens : List Token} {pattern : Pattern} :
      DerivesAtom tokens pattern → DerivesTerm tokens pattern
  | starBefore {star : Token} {tokens : List Token} {pattern : Pattern} :
      star.kind = .star → DerivesAtom tokens pattern →
      DerivesTerm (star :: tokens) (repeated pattern)
  | starBehind {star : Token} {tokens : List Token} {pattern : Pattern} :
      star.kind = .star → DerivesAtom tokens pattern →
      DerivesTerm (tokens ++ [star]) (repeated pattern)

inductive DerivesAtom : List Token → Pattern → Prop where
  | any {token : Token} :
      token.kind = .underscore ∨ token.kind = .dot → DerivesAtom [token] any
  | constr {head arguments : List Token}
      {pieces fieldPieces : List (List Token)} {name : NamePattern}
      {positional : List Pattern} {named : List (NamePattern × Pattern)} :
      DerivesName readRegex head name →
      Enclosed .openParen .closeParen (pieces ++ fieldPieces) arguments →
      List.Forall₂ Derives pieces positional →
      DerivesFields fieldPieces named →
      DerivesAtom (head ++ arguments) (constr name positional named)
  | string {tokens : List Token} {body : Text} :
      DerivesToken .string (fun token => Text.decode token.body) tokens body →
      DerivesAtom tokens (string body)
  | regex {tokens : List Token} {expression : RegexPattern} :
      DerivesRegex readRegex tokens expression →
      DerivesAtom tokens (regex expression)
  | text {tokens : List Token} {part : Text} :
      DerivesToken .text (fun token => Text.decode token.body) tokens part →
      DerivesAtom tokens (text part)
  | map {pieces : List (List Token)} {tokens : List Token}
      {pairs : List (Pattern × Pattern)} :
      Enclosed .openParen .closeParen pieces tokens →
      DerivesPairs pieces pairs → DerivesAtom tokens (map pairs)
  | set {pieces : List (List Token)} {tokens : List Token}
      {items : List Pattern} :
      Enclosed .openBrace .closeBrace pieces tokens →
      List.Forall₂ Derives pieces items → DerivesAtom tokens (set items)
  | list {pieces : List (List Token)} {tokens : List Token}
      {items : List Pattern} :
      Enclosed .openBracket .closeBracket pieces tokens →
      List.Forall₂ Derives pieces items → DerivesAtom tokens (list items)
  | tuple {pieces : List (List Token)} {tokens : List Token}
      {items : List Pattern} :
      Enclosed .openAngle .closeAngle pieces tokens →
      List.Forall₂ Derives pieces items → DerivesAtom tokens (tuple items)
  | number {tokens : List Token} {digits : String} :
      DerivesToken .number Token.written tokens digits →
      DerivesAtom tokens (number digits)
  | boolean {tokens : List Token} {truth : Bool} :
      DerivesBoolean tokens truth → DerivesAtom tokens (boolean truth)
  | location {tokens : List Token} {place : Location} :
      DerivesLocation tokens place → DerivesAtom tokens (location place)

/-- Each piece is a pattern, a colon and a pattern. -/
inductive DerivesPairs :
    List (List Token) → List (Pattern × Pattern) → Prop where
  | nil : DerivesPairs [] []
  | cons {left right : List Token} {colon : Token}
      {pieces : List (List Token)} {key value : Pattern}
      {pairs : List (Pattern × Pattern)} :
      colon.kind = .colon → Derives left key → Derives right value →
      DerivesPairs pieces pairs →
      DerivesPairs ((left ++ colon :: right) :: pieces) ((key, value) :: pairs)

/-- Each piece is a name, an equals sign and a pattern. -/
inductive DerivesFields :
    List (List Token) → List (NamePattern × Pattern) → Prop where
  | nil : DerivesFields [] []
  | cons {left right : List Token} {equals : Token}
      {pieces : List (List Token)} {name : NamePattern} {value : Pattern}
      {fields : List (NamePattern × Pattern)} :
      equals.kind = .equals → DerivesFieldName readRegex left name →
      Derives right value → DerivesFields pieces fields →
      DerivesFields ((left ++ equals :: right) :: pieces)
        ((name, value) :: fields)

end

end

section

variable {readRegex : RegexReader} {pieces : List (List Token)}

theorem derivesPairs_iff_forall₂ {pairs : List (Pattern × Pattern)} :
    DerivesPairs readRegex pieces pairs ↔
      List.Forall₂ (DerivesEntry (Derives readRegex)) pieces pairs := by
  induction pieces generalizing pairs with
  | nil =>
      constructor
      · intro derived
        cases derived
        exact .nil
      · intro derived
        cases derived
        exact .nil
  | cons piece pieces induction =>
      constructor
      · intro derived
        cases derived with
        | cons kind key value others =>
            exact .cons ⟨_, _, _, rfl, kind, key, value⟩ (induction.mp others)
      · intro derived
        cases derived with
        | cons first others =>
            obtain ⟨left, colon, right, rfl, kind, key, value⟩ := first
            exact .cons kind key value (induction.mpr others)

theorem derivesFields_iff_forall₂ {fields : List (NamePattern × Pattern)} :
    DerivesFields readRegex pieces fields ↔
      List.Forall₂ (DerivesField (DerivesFieldName readRegex)
        (Derives readRegex)) pieces fields := by
  induction pieces generalizing fields with
  | nil =>
      constructor
      · intro derived
        cases derived
        exact .nil
      · intro derived
        cases derived
        exact .nil
  | cons piece pieces induction =>
      constructor
      · intro derived
        cases derived with
        | cons kind name value others =>
            exact .cons ⟨_, _, _, rfl, kind, name, value⟩ (induction.mp others)
      · intro derived
        cases derived with
        | cons first others =>
            obtain ⟨left, equals, right, rfl, kind, name, value⟩ := first
            exact .cons kind name value (induction.mpr others)

end

section

variable {readRegex : RegexReader} {tokens : List Token} {pattern : Pattern}

theorem derives_iff_chained :
    Derives readRegex tokens pattern ↔
      ∃ pieces options, Chained .alternation pieces tokens ∧
        List.Forall₂ (DerivesTerm readRegex) pieces options ∧
        alternatives options = pattern := by
  constructor
  · intro derived
    cases derived with
    | term found =>
        exact ⟨[tokens], [pattern], .last tokens, .cons found .nil, rfl⟩
    | or chained terms =>
        have ⟨_, _, _, later, same⟩ := List.forall₂_cons_left_iff.mp terms
        obtain ⟨_, _, _, _, rfl⟩ := List.forall₂_cons_left_iff.mp later
        subst same
        exact ⟨_, _, chained, terms, rfl⟩
  · intro chain
    obtain ⟨pieces, options, chained, terms, rfl⟩ := chain
    cases terms with
    | nil => cases chained
    | cons first others =>
        cases others with
        | nil =>
            cases chained with
            | last piece => exact .term first
            | more piece _ later => cases later
        | cons second others =>
            exact .or chained (.cons first (.cons second others))

theorem DerivesAtom.star_eq (derived : DerivesAtom readRegex tokens pattern) :
    star pattern = repeated pattern := by
  cases derived <;> rfl

/-- A pattern that is no alternation is an atom, or an atom with one star. -/
theorem Derives.atom_cases (derived : Derives readRegex tokens pattern)
    (single : ∀ options, pattern ≠ .or options) :
    DerivesAtom readRegex tokens pattern ∧
        (∀ inner, pattern ≠ repeated inner) ∨
      ∃ mark piece inner, pattern = repeated inner ∧ mark.kind = .star ∧
        DerivesAtom readRegex piece inner ∧
        (tokens = mark :: piece ∨ tokens = piece ++ [mark]) := by
  cases derived with
  | or => exact absurd rfl (single _)
  | term found =>
      cases found with
      | atom atom =>
          refine .inl ⟨atom, ?_⟩
          intro inner same
          rw [same] at atom
          cases atom
      | starBefore kind atom => exact .inr ⟨_, _, _, rfl, kind, atom, .inl rfl⟩
      | starBehind kind atom => exact .inr ⟨_, _, _, rfl, kind, atom, .inr rfl⟩

/-- The kinds of token that name a constructor. -/
def nameKinds : List Token.Kind :=
  [.identifier, .string, .regex, .text]

/-- The kinds of token that an atom starts with. -/
def atomKinds : List Token.Kind :=
  [.underscore, .dot, .identifier, .string, .regex, .text, .openParen,
  .openBrace, .openBracket, .openAngle, .number, .trueWord, .falseWord,
  .location]

theorem DerivesName.exists_token {name : NamePattern}
    (derived : DerivesName readRegex tokens name) :
    ∃ token, tokens = [token] ∧ token.kind ∈ nameKinds := by
  cases derived with
  | identifier names | quoted names | text names =>
      obtain ⟨token, rfl, kind, _⟩ := names
      exact ⟨token, rfl, by simp [kind, nameKinds]⟩
  | regex names =>
      obtain ⟨token, _, rfl, kind, _⟩ := names
      exact ⟨token, rfl, by simp [kind, nameKinds]⟩

theorem DerivesAtom.exists_first
    (derived : DerivesAtom readRegex tokens pattern) :
    ∃ first others, tokens = first :: others ∧ first.kind ∈ atomKinds := by
  cases derived with
  | @any token kinds =>
      refine ⟨token, [], rfl, ?_⟩
      rcases kinds with kind | kind
      · simp [kind, atomKinds]
      · simp [kind, atomKinds]
  | constr names =>
      have starts : ∀ kind ∈ nameKinds, kind ∈ atomKinds := by decide
      obtain ⟨token, rfl, named⟩ := names.exists_token
      exact ⟨token, _, rfl, starts _ named⟩
  | string found | text found | number found =>
      obtain ⟨token, rfl, kind, _⟩ := found
      exact ⟨token, [], rfl, by simp [kind, atomKinds]⟩
  | regex found =>
      obtain ⟨token, _, rfl, kind, _⟩ := found
      exact ⟨token, [], rfl, by simp [kind, atomKinds]⟩
  | map enclosed | set enclosed | list enclosed | tuple enclosed =>
      obtain ⟨first, _, _, rfl, kind, _⟩ := enclosed
      exact ⟨first, _, rfl, by simp [kind, atomKinds]⟩
  | @boolean _ truth found =>
      obtain ⟨token, rfl, kind⟩ := found
      exact ⟨token, [], rfl, by cases truth <;> simp [kind, atomKinds]⟩
  | location found =>
      obtain ⟨token, rest, rfl, kind, _⟩ := found
      exact ⟨token, rest, rfl, by simp [kind, atomKinds]⟩

theorem DerivesTerm.nonempty (derived : DerivesTerm readRegex tokens pattern) :
    tokens ≠ [] := by
  cases derived with
  | atom found =>
      obtain ⟨first, others, rfl, _⟩ := found.exists_first
      exact List.cons_ne_nil _ _
  | starBefore => exact List.cons_ne_nil _ _
  | starBehind => simp

theorem Derives.nonempty (derived : Derives readRegex tokens pattern) :
    tokens ≠ [] := by
  cases derived with
  | term found => exact found.nonempty
  | or chained =>
      cases chained
      simp

/-- Behind an identifier an atom goes on with a parenthesis. -/
theorem DerivesAtom.parenthesis
    (derived : DerivesAtom readRegex tokens pattern)
    {first second : Token} {rest others : List Token}
    (split : tokens ++ others = first :: second :: rest)
    (identifier : first.kind = .identifier) : second.kind = .openParen := by
  cases derived with
  | any kinds =>
      obtain ⟨rfl, -⟩ := List.cons.inj split
      simp [identifier] at kinds
  | constr names enclosed =>
      obtain ⟨token, rfl, _⟩ := names.exists_token
      obtain ⟨opening, _, _, rfl, opens, _⟩ := enclosed
      obtain ⟨rfl, -⟩ := List.cons.inj (List.cons.inj split).2
      exact opens
  | string found | text found | number found =>
      obtain ⟨token, rfl, kind, _⟩ := found
      obtain ⟨rfl, -⟩ := List.cons.inj split
      simp [kind] at identifier
  | regex found =>
      obtain ⟨token, _, rfl, kind, _⟩ := found
      obtain ⟨rfl, -⟩ := List.cons.inj split
      simp [kind] at identifier
  | map enclosed | set enclosed | list enclosed | tuple enclosed =>
      obtain ⟨opening, _, _, rfl, kind, _⟩ := enclosed
      obtain ⟨rfl, -⟩ := List.cons.inj split
      simp [kind] at identifier
  | @boolean _ truth found =>
      obtain ⟨token, rfl, kind⟩ := found
      obtain ⟨rfl, -⟩ := List.cons.inj split
      cases truth <;> simp [kind] at identifier
  | location found =>
      obtain ⟨token, rest, rfl, kind, _⟩ := found
      obtain ⟨rfl, -⟩ := List.cons.inj split
      simp [kind] at identifier

theorem DerivesTerm.parenthesis
    (derived : DerivesTerm readRegex tokens pattern)
    {first second : Token} {rest others : List Token}
    (split : tokens ++ others = first :: second :: rest)
    (identifier : first.kind = .identifier) : second.kind = .openParen := by
  cases derived with
  | atom found => exact found.parenthesis split identifier
  | starBefore kind =>
      obtain ⟨rfl, -⟩ := List.cons.inj split
      simp [kind] at identifier
  | starBehind _ found =>
      rw [List.append_assoc] at split
      exact found.parenthesis split identifier

theorem Derives.parenthesis (derived : Derives readRegex tokens pattern)
    {first second : Token} {rest others : List Token}
    (split : tokens ++ others = first :: second :: rest)
    (identifier : first.kind = .identifier) : second.kind = .openParen := by
  cases derived with
  | term found => exact found.parenthesis split identifier
  | or chained terms =>
      cases chained
      cases terms with
      | cons found _ =>
          rw [List.append_assoc] at split
          exact found.parenthesis split identifier

/-- A pattern that spells a field name is one token, which names the field. -/
theorem Derives.fieldName (derived : Derives readRegex tokens pattern)
    {given : NamePattern} (called : fieldName? pattern = some given) :
    DerivesFieldName readRegex tokens given := by
  cases derived with
  | or => cases called
  | term found =>
      cases found with
      | starBefore | starBehind => cases called
      | atom found =>
          cases found with
          | regex found =>
              cases called
              exact .regex found
          | text found =>
              cases called
              exact .text found
          | _ => cases called

end

end Pattern

end TreeQuery

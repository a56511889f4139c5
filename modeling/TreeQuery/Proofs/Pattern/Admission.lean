import TreeQuery.Proofs.Pattern.Completeness
import TreeQuery.Proofs.Reading.Offences
import TreeQuery.Proofs.Reading.Pieces

/-!
# Patterns in which nothing offends

The rule for patterns admits what is in order up to marked places, where
expressions that cannot be read are marked.  What is in order throughout derives
a pattern.
-/

namespace TreeQuery.Pattern

open Reading

variable {readRegex : RegexReader}

/-- The token is no expression, or one that can be read, or its start is
marked. -/
def Legible (readRegex : RegexReader) (marked : Nat → Prop) (token : Token) :
    Prop :=
  token.kind = .regex →
    (∃ regex, readRegex token.body = .ok regex) ∨ StartsMarked marked token

theorem legible_of_kind {marked : Nat → Prop} (token : Token)
    (other : token.kind ≠ .regex) : Legible readRegex marked token :=
  fun same => absurd same other

section

variable {marked : Nat → Prop} {language : Language Token}

/-- The words of the language whose expressions are legible, and which are one
token that names an argument if they are read as a name. -/
def Admitted (readRegex : RegexReader) (marked : Nat → Prop)
    (language : Language Token) : List Token → Pattern → Prop :=
  Rule.Nameable fieldName? .pattern (having (Legible readRegex marked) language)

theorem regexRule_admits :
    (regexRule readRegex).Admits marked fun tokens _ =>
      tokens ∈ having (Legible readRegex marked) (ofKinds [.regex]) := by
  have body : ((Rule.token .regex).map Token.body).Admits marked
      fun tokens body => ∃ token : Token, tokens = [token] ∧
        token.kind = .regex ∧ token.body = body :=
    (Rule.token_admits .regex).map fun tokens found derived =>
      ⟨found, derived.1, derived.2, rfl⟩
  intro cursor progress result emitted
  obtain ⟨_, passes, ⟨body, start⟩, ⟨⟨token, rfl, kind, rfl⟩, starts⟩, -,
    objected⟩ := body.located.inspect result emitted
  refine ⟨_, passes, ⟨token, rfl, List.mem_singleton.mpr kind⟩, ?_⟩
  intro found among _
  obtain rfl := List.mem_singleton.mp among
  cases outcome : readRegex found.body with
  | ok regex => exact .inl ⟨regex, rfl⟩
  | error message =>
      simp only [outcome] at objected
      right
      rw [StartsMarked, ← starts found rfl]
      exact objected _ List.mem_cons_self

theorem token_admits_legible {kind : Token.Kind} (other : kind ≠ .regex) :
    (Rule.token kind).Admits marked fun tokens _ =>
      tokens ∈ having (Legible readRegex marked) (ofKinds [kind]) :=
  Rule.token_admits_having legible_of_kind other

theorem nameRule_admits :
    (nameRule readRegex).Admits marked fun tokens _ =>
      tokens ∈ having (Legible readRegex marked)
        (ofKinds [.identifier, .string, .regex, .text]) := by
  have among {kind : Token.Kind}
      (known : [kind] ⊆ [Token.Kind.identifier, .string, .regex, .text])
      {tokens : List Token} :
      tokens ∈ having (Legible readRegex marked) (ofKinds [kind]) →
      tokens ∈ having (Legible readRegex marked)
        (ofKinds [.identifier, .string, .regex, .text]) :=
    having_mono (ofKinds_mono known)
  have token {kind : Token.Kind} (other : kind ≠ .regex) :
      (Rule.token kind).Admits marked fun tokens _ =>
        tokens ∈ having (Legible readRegex marked) (ofKinds [kind]) :=
    token_admits_legible other
  apply Rule.Admits.firstOf
  simp only [List.forall_mem_cons]
  refine ⟨?_, ?_, ?_, ?_, List.forall_mem_nil _⟩
  · exact ((token (by decide)).map fun _ _ => id).map fun _ _ =>
      among (by decide)
  · exact ((token (by decide)).map fun _ _ => id).map fun _ _ =>
      among (by decide)
  · exact regexRule_admits.map fun _ _ => among (by decide)
  · exact ((token (by decide)).map fun _ _ => id).map fun _ _ =>
      among (by decide)

theorem anyRule_admits :
    anyRule.Admits marked (Admitted readRegex marked
      (ofKinds [.underscore, .dot])) := by
  have token {kind : Token.Kind} (other : kind ≠ .regex)
      (known : [kind] ⊆ [Token.Kind.underscore, .dot]) :
      (Rule.token kind).Admits marked fun tokens _ =>
        tokens ∈ having (Legible readRegex marked)
          (ofKinds [.underscore, .dot]) :=
    (token_admits_legible other).mono fun _ _ => having_mono (ofKinds_mono known)
  exact ((token (by decide) (by decide)).orElse
    (token (by decide) (by decide))).unnamed fun _ => rfl

/-- An expression or a text may name an argument. -/
theorem Admits.leaf {rule : Rule Pattern} {kind : Token.Kind}
    (known : [kind] ⊆ Dialect.pattern.names)
    (admits : rule.Admits marked fun tokens _ =>
      tokens ∈ having (Legible readRegex marked) (ofKinds [kind])) :
    rule.Admits marked (Admitted readRegex marked (ofKinds [kind])) := by
  apply admits.mono
  intro tokens pattern member
  exact ⟨member, fun _ => ofKinds_mono known member.1⟩

theorem rules_admitted {item : Rule Pattern} (proper : [] ∉ language)
    (admits : item.Admits marked (Admitted readRegex marked language)) :
    Rule.AdmitEach marked (Legible readRegex marked) fieldName? .pattern language
      (anyRule :: constrRule readRegex item :: plainRules readRegex item)
      Dialect.pattern.branches := by
  have plain : ∀ token : Token, token.kind ≠ .regex →
    Legible readRegex marked token := legible_of_kind
  have word : Rule.identifier.Admits marked fun tokens _ =>
      tokens ∈ having (Legible readRegex marked) (ofKinds [.identifier]) :=
    (token_admits_legible (by decide)).map fun _ _ => id
  have identifier : (Rule.identifier.map NamePattern.identifier).Admits marked
      fun tokens _ => tokens ∈ ofKinds [.identifier] :=
    word.map fun _ _ => And.left
  have quoted {kind : Token.Kind} (other : kind ≠ .regex) :
      (Rule.quoted kind).Admits marked fun tokens _ =>
        tokens ∈ having (Legible readRegex marked) (ofKinds [kind]) :=
    (token_admits_legible other).map fun _ _ => id
  have number : Rule.number.Admits marked fun tokens _ =>
      tokens ∈ having (Legible readRegex marked) (ofKinds [.number]) :=
    (token_admits_legible (by decide)).map fun _ _ => id
  have arguments := Rule.Admits.arguments plain identifier admits proper
  exact .cons anyRule_admits <|
    .cons (nameRule_admits.call arguments fun _ => rfl) <|
    .cons ((quoted (by decide)).unnamed fun _ => rfl) <|
    .cons (Admits.leaf (by decide) (regexRule_admits.map fun _ _ => id)) <|
    .cons (Admits.leaf (by decide) ((quoted (by decide)).map fun _ _ => id)) <|
    .cons ((admits.entries plain).unnamed fun _ => rfl) <|
    .cons ((admits.items plain (by decide) (by decide)).unnamed fun _ => rfl) <|
    .cons ((admits.items plain (by decide) (by decide)).unnamed fun _ => rfl) <|
    .cons ((admits.items plain (by decide) (by decide)).unnamed fun _ => rfl) <|
    .cons (number.unnamed fun _ => rfl) <|
    .cons ((Rule.boolean_admits plain).unnamed fun _ => rfl) <|
    .cons ((Rule.location_admits plain).unnamed fun _ => rfl) .nil

theorem fieldName?_star (pattern : Pattern) : fieldName? (star pattern) = none := by
  cases pattern <;> rfl

theorem termRule_admits {atom : Rule Pattern}
    (admits : atom.Admits marked (Admitted readRegex marked language)) :
    (termRule atom).Admits marked (Admitted readRegex marked (term language)) := by
  have mark : (Rule.token .star).Admits marked fun tokens _ =>
      tokens ∈ having (Legible readRegex marked) (ofKinds [.star]) :=
    token_admits_legible (by decide)
  have before : ((Rule.token .star).skipThen atom).Admits marked
      fun tokens _ => tokens ∈ having (Legible readRegex marked) (term language) := by
    apply (mark.skipThen admits).mono
    intro _ _ derived
    obtain ⟨left, right, _, rfl, star, member, -⟩ := derived
    exact having_mono (le_add_right le_rfl) (append_mem_having star member)
  apply Rule.Admits.firstOf
  simp only [List.forall_mem_cons]
  refine ⟨before.unnamed fieldName?_star, ?_, List.forall_mem_nil _⟩
  apply (admits.andThen mark.optional).map
  intro _ parts derived
  obtain ⟨inner, found⟩ := parts
  obtain ⟨left, right, rfl, ⟨member, names⟩, followed⟩ := derived
  rcases followed with ⟨none, rfl⟩ | ⟨star, some, starred⟩
  · obtain rfl : found = .none := none
    rw [List.append_nil]
    refine ⟨having_mono ?_ member, names⟩
    exact (le_mul_one_add _ _).trans (le_add_left le_rfl)
  · obtain rfl : found = .some star := some
    refine ⟨having_mono ?_ (append_mem_having member starred), ?_⟩
    · exact (mul_le_mul' le_rfl (le_add_left le_rfl)).trans (le_add_left le_rfl)
    · simp [fieldName?_star]

theorem chain_admits {rule : Rule Pattern}
    (admits : rule.Admits marked (Admitted readRegex marked language)) :
    ((rule.separatedChain (Rule.token .alternation)).map alternatives).Admits
      marked (Admitted readRegex marked (chained language)) := by
  apply admits.separatedChain.map
  intro tokens options derived
  obtain ⟨pieces, chain, all⟩ := derived
  refine ⟨chained_mem_having legible_of_kind chain
    (forall_mem_of_forall₂ all fun _ _ derived => derived.1), ?_⟩
  intro named
  cases all with
  | nil => cases chain
  | @cons _ option _ _ first others =>
      cases others with
      | nil =>
          cases chain with
          | last => exact first.2 named
          | more _ _ later => cases later
      | cons => cases named

/-- What the rule reads is in order, up to places that it objects to. -/
theorem rule_admits (depth : Nat) :
    (rule readRegex depth).Admits marked (Admitted readRegex marked
      (toleratedWithin (StartsMarked marked) .pattern depth)) := by
  induction depth with
  | zero =>
      intro cursor progress result
      cases result
  | succ depth induction =>
      have atoms : (atomRule readRegex (rule readRegex depth)).Admits marked
          (Admitted readRegex marked (atom (tolerant (StartsMarked marked) .pattern)
            .pattern (toleratedWithin (StartsMarked marked) .pattern depth))) :=
        (rules_admitted (nil_not_mem_nested depth) induction).firstOf
      exact chain_admits (termRule_admits atoms)

end

/-! ## Derivations -/

/-- The expressions among the tokens can be read. -/
def Readable (readRegex : RegexReader) (tokens : List Token) : Prop :=
  ∀ token ∈ tokens, token.kind = .regex →
    ∃ regex, readRegex token.body = .ok regex

section

variable {language : Language Token}
  (derivable : ∀ word ∈ language, Readable readRegex word →
    ∃ pattern, Derives readRegex word pattern)

theorem exists_derivesRegex {token : Token} {tokens : List Token}
    (readable : Readable readRegex tokens) (among : token ∈ tokens)
    (kind : token.kind = .regex) :
    ∃ expression, DerivesRegex readRegex [token] expression := by
  obtain ⟨regex, outcome⟩ := readable token among kind
  exact ⟨_, token, regex, rfl, kind, outcome, rfl⟩

include derivable

theorem exists_derivesItems {pieces : List (List Token)}
    (each : ∀ piece ∈ pieces, piece ∈ language)
    (readable : ∀ piece ∈ pieces, Readable readRegex piece) :
    ∃ items, List.Forall₂ (Derives readRegex) pieces items :=
  exists_forall₂ _ fun piece among =>
    derivable piece (each piece among) (readable piece among)

theorem exists_derivesPairs {pieces : List (List Token)}
    (each : ∀ piece ∈ pieces, piece ∈ entry language)
    (readable : ∀ piece ∈ pieces, Readable readRegex piece) :
    ∃ pairs, DerivesPairs readRegex pieces pairs := by
  have pairs : ∀ piece ∈ pieces,
      ∃ pair, DerivesEntry (Derives readRegex) piece pair := by
    intro piece among
    have legible := readable piece among
    obtain ⟨left, colon, right, rfl, kind, member, member'⟩ :=
      exists_separated (each piece among)
    obtain ⟨first, later⟩ := List.forall_mem_append.mp legible
    obtain ⟨key, derived⟩ := derivable left member first
    obtain ⟨value, derived'⟩ :=
      derivable right member' (List.forall_mem_cons.mp later).2
    exact ⟨(key, value), left, colon, right, rfl, kind, derived, derived'⟩
  obtain ⟨found, all⟩ := exists_forall₂ _ pairs
  exact ⟨found, derivesPairs_iff_forall₂.mpr all⟩

theorem exists_derivesFields {pieces : List (List Token)}
    (each : ∀ piece ∈ pieces, piece ∈ field .pattern language)
    (readable : ∀ piece ∈ pieces, Readable readRegex piece) :
    ∃ fields, DerivesFields readRegex pieces fields := by
  have fields : ∀ piece ∈ pieces, ∃ field,
      DerivesField (DerivesFieldName readRegex) (Derives readRegex) piece field := by
    intro piece among
    have legible := readable piece among
    obtain ⟨_, equals, right, rfl, kind, ⟨token, rfl, known⟩, member⟩ :=
      exists_separated (each piece among)
    obtain ⟨first, later⟩ := List.forall_mem_append.mp legible
    obtain ⟨value, derived⟩ :=
      derivable right member (List.forall_mem_cons.mp later).2
    have named : ∃ name, DerivesFieldName readRegex [token] name := by
      simp only [Dialect.names, List.mem_cons, List.not_mem_nil,
        or_false] at known
      rcases known with kind | kind | kind
      · exact ⟨_, .identifier ⟨token, rfl, kind, rfl⟩⟩
      · obtain ⟨expression, derived⟩ :=
          exists_derivesRegex first List.mem_cons_self kind
        exact ⟨_, .regex derived⟩
      · exact ⟨_, .text ⟨token, rfl, kind, rfl⟩⟩
    obtain ⟨name, derivedName⟩ := named
    exact ⟨(name, value), [token], equals, right, rfl, kind, derivedName, derived⟩
  obtain ⟨found, all⟩ := exists_forall₂ _ fields
  exact ⟨found, derivesFields_iff_forall₂.mpr all⟩

theorem exists_derives_call {word : List Token}
    (member : word ∈ Branch.language (tolerant Nothing .pattern) language
      (.call [.identifier, .string, .regex, .text]))
    (readable : Readable readRegex word) :
    ∃ pattern, DerivesAtom readRegex word pattern := by
  obtain ⟨_, ⟨token, rfl, known⟩, arguments, behind, rfl⟩ := member
  obtain ⟨first, later⟩ := List.forall_mem_append.mp readable
  obtain ⟨pieces, fieldPieces, enclosed, items, fields⟩ := exists_arguments behind
  have legible : ∀ piece ∈ pieces ++ fieldPieces, Readable readRegex piece :=
    fun piece among token inside =>
      later token (enclosed.subset piece among inside)
  obtain ⟨legible, legible'⟩ := List.forall_mem_append.mp legible
  obtain ⟨positional, derived⟩ := exists_derivesItems derivable items legible
  obtain ⟨named, derived'⟩ := exists_derivesFields derivable fields legible'
  have head : ∃ name, DerivesName readRegex [token] name := by
    simp only [List.mem_cons, List.not_mem_nil, or_false] at known
    rcases known with kind | kind | kind | kind
    · exact ⟨_, .identifier ⟨token, rfl, kind, rfl⟩⟩
    · exact ⟨_, .quoted ⟨token, rfl, kind, rfl⟩⟩
    · obtain ⟨expression, derived⟩ :=
        exists_derivesRegex first List.mem_cons_self kind
      exact ⟨_, .regex derived⟩
    · exact ⟨_, .text ⟨token, rfl, kind, rfl⟩⟩
  obtain ⟨name, derivedName⟩ := head
  exact ⟨_, .constr derivedName enclosed derived derived'⟩

theorem exists_derives_items {opening closing : Token.Kind} {word : List Token}
    {make : List Pattern → Pattern}
    (implied : ∀ ⦃pieces items⦄, Enclosed opening closing pieces word →
      List.Forall₂ (Derives readRegex) pieces items →
      DerivesAtom readRegex word (make items))
    (member : word ∈ enclosed opening closing language)
    (readable : Readable readRegex word) :
    ∃ pattern, DerivesAtom readRegex word pattern := by
  obtain ⟨pieces, enclosed, each⟩ := exists_enclosed member
  obtain ⟨items, derived⟩ := exists_derivesItems derivable each
    fun piece among token inside =>
      readable token (enclosed.subset piece among inside)
  exact ⟨make items, implied enclosed derived⟩

theorem exists_derives_branch {branch : Branch} {word : List Token}
    (among : branch ∈ Dialect.pattern.branches)
    (member : word ∈ branch.language (tolerant Nothing .pattern) language)
    (readable : Readable readRegex word) :
    ∃ pattern, DerivesAtom readRegex word pattern := by
  simp only [Dialect.branches, sharedBranches, List.mem_cons,
    List.not_mem_nil, or_false] at among
  rcases among with
    rfl | rfl | rfl | rfl | rfl | rfl | rfl | rfl | rfl | rfl | rfl | rfl
  · obtain ⟨token, rfl, known⟩ := member
    simp only [List.mem_cons, List.not_mem_nil, or_false] at known
    exact ⟨any, .any known⟩
  · exact exists_derives_call derivable member readable
  · obtain ⟨token, rfl, known⟩ := member
    exact ⟨_, .string ⟨token, rfl, List.mem_singleton.mp known, rfl⟩⟩
  · obtain ⟨token, rfl, known⟩ := member
    obtain ⟨expression, derived⟩ := exists_derivesRegex readable
      List.mem_cons_self (List.mem_singleton.mp known)
    exact ⟨_, .regex derived⟩
  · obtain ⟨token, rfl, known⟩ := member
    exact ⟨_, .text ⟨token, rfl, List.mem_singleton.mp known, rfl⟩⟩
  · obtain ⟨pieces, enclosed, each⟩ := exists_enclosed member
    obtain ⟨pairs, derived⟩ := exists_derivesPairs derivable each
      fun piece among token inside =>
        readable token (enclosed.subset piece among inside)
    exact ⟨_, .map enclosed derived⟩
  · exact exists_derives_items derivable (fun _ _ => .set) member readable
  · exact exists_derives_items derivable (fun _ _ => .list) member readable
  · exact exists_derives_items derivable (fun _ _ => .tuple) member readable
  · obtain ⟨token, rfl, known⟩ := member
    exact ⟨_, .number ⟨token, rfl, List.mem_singleton.mp known, rfl⟩⟩
  · obtain ⟨token, rfl, known⟩ := member
    simp only [List.mem_cons, List.not_mem_nil, or_false] at known
    rcases known with kind | kind
    · exact ⟨boolean true, .boolean ⟨token, rfl, kind⟩⟩
    · exact ⟨boolean false, .boolean ⟨token, rfl, kind⟩⟩
  · obtain ⟨place, derived⟩ := exists_derivesLocation member
    exact ⟨_, .location derived⟩

end

theorem exists_derivesTerm {language : Language Token}
    (derivable : ∀ word ∈ language, Readable readRegex word →
      ∃ pattern, DerivesAtom readRegex word pattern) {word : List Token}
    (member : word ∈ term language) (readable : Readable readRegex word) :
    ∃ pattern, DerivesTerm readRegex word pattern := by
  rcases member with ⟨_, ⟨star, rfl, known⟩, atom, inside, rfl⟩ |
    ⟨atom, inside, rest, either, rfl⟩
  · obtain ⟨-, legible⟩ := List.forall_mem_append.mp readable
    obtain ⟨pattern, derived⟩ := derivable atom inside legible
    exact ⟨_, .starBefore (List.mem_singleton.mp known) derived⟩
  · obtain ⟨legible, -⟩ := List.forall_mem_append.mp readable
    obtain ⟨pattern, derived⟩ := derivable atom inside legible
    rcases either with empty | ⟨star, rfl, known⟩
    · obtain rfl : rest = [] := empty
      exact ⟨pattern, .atom (by simpa using derived)⟩
    · exact ⟨_, .starBehind (List.mem_singleton.mp known) derived⟩

/-- A text in which nothing offends and all expressions can be read derives a
pattern. -/
theorem exists_derives (depth : Nat) :
    ∀ word ∈ toleratedWithin Nothing .pattern depth, Readable readRegex word →
      ∃ pattern, Derives readRegex word pattern := by
  induction depth with
  | zero =>
      intro word member _
      obtain ⟨token, rfl, known⟩ := member
      exact ⟨number _, .term (.atom
        (.number ⟨token, rfl, List.mem_singleton.mp known, rfl⟩))⟩
  | succ depth derivable =>
      have atoms : ∀ word ∈ atom (tolerant Nothing .pattern) .pattern
          (toleratedWithin Nothing .pattern depth), Readable readRegex word →
          ∃ pattern, DerivesAtom readRegex word pattern := by
        intro word either readable
        obtain ⟨_, given, member⟩ := mem_sum_iff.mp either
        obtain ⟨branch, among, rfl⟩ := List.mem_map.mp given
        exact exists_derives_branch derivable among member readable
      intro word member readable
      obtain ⟨pieces, chain, each⟩ := member
      obtain ⟨options, all⟩ := exists_forall₂ (DerivesTerm readRegex)
        fun piece among => exists_derivesTerm atoms (each piece among)
          fun token inside => readable token (chain.subset piece among inside)
      exact ⟨_, derives_iff_chained.mpr ⟨pieces, options, chain, all, rfl⟩⟩

end TreeQuery.Pattern

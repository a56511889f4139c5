import TreeQuery.Proofs.Reading.Offences
import TreeQuery.Proofs.Reading.Pieces
import TreeQuery.Proofs.Value.Reading

/-!
# Values in which nothing offends

The rule for values admits what is in order up to marked places.  What is in
order throughout derives a value.
-/

namespace TreeQuery.Value

open Reading

section

variable {marked : Nat → Prop} {fine : Token → Prop}
  (plain : ∀ token : Token, token.kind ≠ .regex → fine token)
  {item : Rule Value} {language : Language Token}

include plain

/-- The words of the language of fine tokens.  No value names an argument. -/
def Admitted (fine : Token → Prop) (language : Language Token) :
    List Token → Value → Prop :=
  Rule.Nameable (fun _ => (none : Option String)) .value (having fine language)

theorem rules_admitted (proper : [] ∉ language)
    (admits : item.Admits marked (Admitted fine language)) :
    Rule.AdmitEach marked fine (fun _ => (none : Option String)) .value language
      (constrRule .identifier Rule.identifier item :: otherRules item)
      Dialect.value.branches := by
  have identifier : Rule.identifier.Admits marked fun tokens _ =>
      tokens ∈ having fine (ofKinds [.identifier]) :=
    (Rule.token_admits_having plain (by decide)).map fun _ _ => id
  have quoted : (Rule.quoted .string).Admits marked fun tokens _ =>
      tokens ∈ having fine (ofKinds [.string]) :=
    (Rule.token_admits_having plain (by decide)).map fun _ _ => id
  have number : Rule.number.Admits marked fun tokens _ =>
      tokens ∈ having fine (ofKinds [.number]) :=
    (Rule.token_admits_having plain (by decide)).map fun _ _ => id
  have arguments := Rule.Admits.arguments plain
    (identifier.mono fun _ _ => And.left) admits proper
  exact .cons (identifier.call arguments fun _ => rfl) <|
    .cons ((quoted.map fun _ _ => id).call arguments fun _ => rfl) <|
    .cons (quoted.unnamed fun _ => rfl) <|
    .cons ((admits.entries plain).unnamed fun _ => rfl) <|
    .cons ((admits.items plain (by decide) (by decide)).unnamed fun _ => rfl) <|
    .cons ((admits.items plain (by decide) (by decide)).unnamed fun _ => rfl) <|
    .cons ((admits.items plain (by decide) (by decide)).unnamed fun _ => rfl) <|
    .cons (number.unnamed fun _ => rfl) <|
    .cons ((Rule.boolean_admits plain).unnamed fun _ => rfl) <|
    .cons ((Rule.location_admits plain).unnamed fun _ => rfl) .nil

/-- What the rule reads is in order, up to places that it objects to. -/
theorem rule_admits (depth : Nat) :
    (rule depth).Admits marked
      (Admitted fine (toleratedWithin (StartsMarked marked) .value depth)) := by
  induction depth with
  | zero =>
      intro cursor progress result
      cases result
  | succ depth induction =>
      exact (rules_admitted plain (nil_not_mem_nested depth) induction).firstOf

end

/-! ## Derivations -/

section

variable {language : Language Token}
  (derivable : ∀ word ∈ language, ∃ value, Derives word value)

include derivable

theorem exists_derivesItems {pieces : List (List Token)}
    (each : ∀ piece ∈ pieces, piece ∈ language) :
    ∃ values, DerivesItems pieces values := by
  obtain ⟨values, all⟩ := exists_forall₂ Derives fun piece among =>
    derivable piece (each piece among)
  exact ⟨values, derivesItems_iff_forall₂.mpr all⟩

theorem exists_derivesEntries {pieces : List (List Token)}
    (each : ∀ piece ∈ pieces, piece ∈ entry language) :
    ∃ entries, DerivesEntries pieces entries := by
  have entries : ∀ piece ∈ pieces, ∃ entry, DerivesEntry Derives piece entry := by
    intro piece among
    obtain ⟨left, colon, right, rfl, kind, member, member'⟩ :=
      exists_separated (each piece among)
    obtain ⟨key, derived⟩ := derivable left member
    obtain ⟨value, derived'⟩ := derivable right member'
    exact ⟨(key, value), left, colon, right, rfl, kind, derived, derived'⟩
  obtain ⟨found, all⟩ := exists_forall₂ _ entries
  exact ⟨found, derivesEntries_iff_forall₂.mpr all⟩

theorem exists_derivesFields {pieces : List (List Token)}
    (each : ∀ piece ∈ pieces, piece ∈ field .value language) :
    ∃ fields, DerivesFields pieces fields := by
  have fields : ∀ piece ∈ pieces,
      ∃ field, DerivesField DerivesIdentifier Derives piece field := by
    intro piece among
    obtain ⟨_, equals, right, rfl, kind, ⟨token, rfl, known⟩, member⟩ :=
      exists_separated (each piece among)
    obtain ⟨value, derived⟩ := derivable right member
    exact ⟨(token.written, value), [token], equals, right, rfl, kind,
      ⟨token, rfl, List.mem_singleton.mp known, rfl⟩, derived⟩
  obtain ⟨found, all⟩ := exists_forall₂ _ fields
  exact ⟨found, derivesFields_iff_forall₂.mpr all⟩

theorem exists_derives_call (kind : ConstructorKind) {names : List Token.Kind}
    {word : List Token}
    (named : ∀ head ∈ ofKinds names, ∃ name, DerivesName kind head name)
    (member : word ∈ Branch.language (tolerant Nothing .value) language
      (.call names)) : ∃ value, Derives word value := by
  obtain ⟨head, begun, arguments, behind, rfl⟩ := member
  obtain ⟨name, derivedName⟩ := named head begun
  obtain ⟨pieces, fieldPieces, enclosed, items, fields⟩ := exists_arguments behind
  obtain ⟨positional, derived⟩ := exists_derivesItems derivable items
  obtain ⟨namedItems, derived'⟩ := exists_derivesFields derivable fields
  exact ⟨constr kind name positional namedItems, head, arguments, pieces,
    fieldPieces, rfl, derivedName, enclosed, derived, derived'⟩

theorem exists_derives_branch {branch : Branch} {word : List Token}
    (among : branch ∈ Dialect.value.branches)
    (member : word ∈ branch.language (tolerant Nothing .value) language) :
    ∃ value, Derives word value := by
  simp only [Dialect.branches, sharedBranches, List.mem_cons,
    List.not_mem_nil, or_false] at among
  rcases among with rfl | rfl | rfl | rfl | rfl | rfl | rfl | rfl | rfl | rfl
  · refine exists_derives_call derivable .identifier ?_ member
    intro head begun
    obtain ⟨token, rfl, known⟩ := begun
    exact ⟨_, token, rfl, List.mem_singleton.mp known, rfl⟩
  · refine exists_derives_call derivable .node ?_ member
    intro head begun
    obtain ⟨token, rfl, known⟩ := begun
    exact ⟨_, token, rfl, List.mem_singleton.mp known, rfl⟩
  · obtain ⟨token, rfl, known⟩ := member
    exact ⟨string _, token, rfl, List.mem_singleton.mp known, rfl⟩
  · obtain ⟨pieces, enclosed, each⟩ := exists_enclosed member
    obtain ⟨entries, derived⟩ := exists_derivesEntries derivable each
    exact ⟨map entries, pieces, enclosed, derived⟩
  · obtain ⟨pieces, enclosed, each⟩ := exists_enclosed member
    obtain ⟨items, derived⟩ := exists_derivesItems derivable each
    exact ⟨set items, pieces, enclosed, derived⟩
  · obtain ⟨pieces, enclosed, each⟩ := exists_enclosed member
    obtain ⟨items, derived⟩ := exists_derivesItems derivable each
    exact ⟨list items, pieces, enclosed, derived⟩
  · obtain ⟨pieces, enclosed, each⟩ := exists_enclosed member
    obtain ⟨items, derived⟩ := exists_derivesItems derivable each
    exact ⟨tuple items, pieces, enclosed, derived⟩
  · obtain ⟨token, rfl, known⟩ := member
    exact ⟨number _, token, rfl, List.mem_singleton.mp known, rfl⟩
  · obtain ⟨token, rfl, known⟩ := member
    simp only [List.mem_cons, List.not_mem_nil, or_false] at known
    rcases known with kind | kind
    · exact ⟨boolean true, token, rfl, kind⟩
    · exact ⟨boolean false, token, rfl, kind⟩
  · obtain ⟨place, derived⟩ := exists_derivesLocation member
    exact ⟨location place, derived⟩

end

/-- A text in which nothing offends derives a value. -/
theorem exists_derives (depth : Nat) :
    ∀ word ∈ toleratedWithin Nothing .value depth, ∃ value, Derives word value := by
  induction depth with
  | zero =>
      intro word member
      obtain ⟨token, rfl, known⟩ := member
      exact ⟨number _, token, rfl, List.mem_singleton.mp known, rfl⟩
  | succ depth derivable =>
      intro word member
      obtain ⟨_, given, member⟩ := mem_sum_iff.mp member
      obtain ⟨branch, among, rfl⟩ := List.mem_map.mp given
      exact exists_derives_branch derivable among member

end TreeQuery.Value

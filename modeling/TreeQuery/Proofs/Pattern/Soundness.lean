import TreeQuery.Proofs.Pattern.Grammar

/-!
# Patterns that are read

Whatever the rule for patterns reads, its tokens derive, whichever expressions
can be read.
-/

namespace TreeQuery

open Reading

namespace Pattern

variable {readRegex : RegexReader}

theorem regexRule_sound :
    (regexRule readRegex).Sound (DerivesRegex readRegex) := by
  intro cursor next expression reads
  obtain ⟨⟨body, start⟩, read, check⟩ := Rule.reads_inspect_iff.mp reads
  obtain ⟨readBody, -⟩ := Rule.reads_located_iff.mp read
  obtain ⟨token, readToken, rfl⟩ := Rule.reads_map_iff.mp readBody
  obtain ⟨kind, passes⟩ := Rule.reads_token_iff.mp readToken
  cases outcome : readRegex token.body with
  | error message => simp [outcome] at check
  | ok regex =>
      have same : ⟨token.body, some regex⟩ = expression := by
        simpa [outcome] using check
      exact ⟨[token], passes, token, regex, rfl, kind, outcome, same.symm⟩

theorem nameRule_sound :
    (nameRule readRegex).Sound (DerivesName readRegex) := by
  have identifier : (Rule.identifier.map NamePattern.identifier).Sound
      (DerivesName readRegex) :=
    Rule.token_sound.map fun _ _ derived => .identifier derived
  have quoted : ((Rule.quoted .string).map fun name =>
      NamePattern.quoted name.plain).Sound (DerivesName readRegex) :=
    Rule.token_sound.map fun _ _ derived => .quoted (derived.map Text.plain)
  have regex : ((regexRule readRegex).map NamePattern.regex).Sound
      (DerivesName readRegex) :=
    regexRule_sound.map fun _ _ derived => .regex derived
  have text : ((Rule.quoted .text).map NamePattern.text).Sound
      (DerivesName readRegex) :=
    Rule.token_sound.map fun _ _ derived => .text derived
  apply Rule.Sound.firstOf
  simp only [List.forall_mem_cons]
  exact ⟨identifier, quoted, regex, text, List.forall_mem_nil _⟩

/-- A constructor with arguments. -/
def constrRule (readRegex : RegexReader) (item : Rule Pattern) : Rule Pattern :=
  ((nameRule readRegex).andThen
    (Rule.arguments (Rule.identifier.map .identifier) item fieldName?)).map
      fun (name, positional, named) => constr name positional named

/-- The ways to read an atom behind wildcards and constructors. -/
def plainRules (readRegex : RegexReader) (item : Rule Pattern) :
    List (Rule Pattern) :=
  [(Rule.quoted .string).map string,
  (regexRule readRegex).map regex,
  (Rule.quoted .text).map text,
  (Rule.delimitedList .openParen .closeParen item.entry).map map,
  (Rule.delimitedList .openBrace .closeBrace item).map set,
  (Rule.delimitedList .openBracket .closeBracket item).map list,
  (Rule.delimitedList .openAngle .closeAngle item).map tuple,
  Rule.number.map number,
  Rule.boolean.map boolean,
  Rule.location.map location]

/-- A wildcard. -/
def anyRule : Rule Pattern :=
  ((Rule.token .underscore).orElse (Rule.token .dot)).map fun _ => any

theorem atomRule_eq (item : Rule Pattern) :
    atomRule readRegex item =
      .firstOf anyRule
        (constrRule readRegex item :: plainRules readRegex item) :=
  rfl

theorem anyRule_sound : anyRule.Sound (DerivesAtom readRegex) := by
  intro cursor next pattern reads
  obtain ⟨token, read, rfl⟩ := Rule.reads_map_iff.mp reads
  rcases read.orElse_cases with readToken | readToken
  · obtain ⟨kind, passes⟩ := Rule.reads_token_iff.mp readToken
    exact ⟨[token], passes, .any (.inl kind)⟩
  · obtain ⟨kind, passes⟩ := Rule.reads_token_iff.mp readToken
    exact ⟨[token], passes, .any (.inr kind)⟩

section

variable {item : Rule Pattern} (sound : item.Sound (Derives readRegex))

include sound

theorem constrRule_sound :
    (constrRule readRegex item).Sound (DerivesAtom readRegex) := by
  have soundName : (Rule.identifier.map NamePattern.identifier).Sound
      (DerivesFieldName readRegex) :=
    Rule.token_sound.map fun _ _ derived => .identifier derived
  have soundArguments :
      (Rule.arguments (Rule.identifier.map .identifier) item fieldName?).Sound
        (DerivesArguments (DerivesFieldName readRegex) (Derives readRegex)) :=
    Rule.Sound.arguments soundName sound
      fun _ _ _ derived called => derived.fieldName called
  intro cursor next pattern reads
  obtain ⟨⟨name, positional, named⟩, read, rfl⟩ := Rule.reads_map_iff.mp reads
  obtain ⟨middle, readName, readArguments⟩ := Rule.reads_andThen_iff.mp read
  obtain ⟨head, passesHead, derivedName⟩ := nameRule_sound readName
  obtain ⟨tokens, passes, pieces, fieldPieces, enclosed, items, fields⟩ :=
    soundArguments readArguments
  exact ⟨head ++ tokens, passesHead.append passes,
    .constr derivedName enclosed items (derivesFields_iff_forall₂.mpr fields)⟩

theorem items_sound {opening closing : Token.Kind}
    {make : List Pattern → Pattern}
    (implied : ∀ ⦃tokens pieces items⦄, Enclosed opening closing pieces tokens →
      List.Forall₂ (Derives readRegex) pieces items →
      DerivesAtom readRegex tokens (make items)) :
    ((Rule.delimitedList opening closing item).map make).Sound
      (DerivesAtom readRegex) := by
  apply sound.delimitedList.map
  intro tokens items derived
  obtain ⟨pieces, enclosed, all⟩ := derived
  exact implied enclosed all

theorem plainRules_sound :
    ∀ rule ∈ plainRules readRegex item, rule.Sound (DerivesAtom readRegex) := by
  have string : ((Rule.quoted .string).map string).Sound
      (DerivesAtom readRegex) :=
    Rule.token_sound.map fun _ _ derived => .string derived
  have regex : ((regexRule readRegex).map regex).Sound
      (DerivesAtom readRegex) :=
    regexRule_sound.map fun _ _ derived => .regex derived
  have text : ((Rule.quoted .text).map text).Sound (DerivesAtom readRegex) :=
    Rule.token_sound.map fun _ _ derived => .text derived
  have map : ((Rule.delimitedList .openParen .closeParen item.entry).map
      map).Sound (DerivesAtom readRegex) := by
    apply sound.entry.delimitedList.map
    intro tokens pairs derived
    obtain ⟨pieces, enclosed, all⟩ := derived
    exact .map enclosed (derivesPairs_iff_forall₂.mpr all)
  have set : ((Rule.delimitedList .openBrace .closeBrace item).map
      set).Sound (DerivesAtom readRegex) :=
    items_sound sound fun _ _ _ => .set
  have list : ((Rule.delimitedList .openBracket .closeBracket item).map
      list).Sound (DerivesAtom readRegex) :=
    items_sound sound fun _ _ _ => .list
  have tuple : ((Rule.delimitedList .openAngle .closeAngle item).map
      tuple).Sound (DerivesAtom readRegex) :=
    items_sound sound fun _ _ _ => .tuple
  have number : (Rule.number.map number).Sound (DerivesAtom readRegex) :=
    Rule.token_sound.map fun _ _ derived => .number derived
  have boolean : (Rule.boolean.map boolean).Sound (DerivesAtom readRegex) :=
    Rule.boolean_sound.map fun _ _ derived => .boolean derived
  have location : (Rule.location.map location).Sound (DerivesAtom readRegex) :=
    Rule.location_sound.map fun _ _ derived => .location derived
  simp only [plainRules, List.forall_mem_cons]
  exact ⟨string, regex, text, map, set, list, tuple, number, boolean, location,
    List.forall_mem_nil _⟩

theorem atomRule_sound :
    (atomRule readRegex item).Sound (DerivesAtom readRegex) := by
  rw [atomRule_eq]
  apply Rule.Sound.firstOf
  simp only [List.forall_mem_cons]
  exact ⟨anyRule_sound, constrRule_sound sound, plainRules_sound sound⟩

end

theorem termRule_sound {atom : Rule Pattern}
    (sound : atom.Sound (DerivesAtom readRegex)) :
    (termRule atom).Sound (DerivesTerm readRegex) := by
  intro cursor next pattern reads
  obtain ⟨branch, member, read⟩ := Rule.Reads.firstOf_cases reads
  rcases List.mem_cons.mp member with rfl | later
  · obtain ⟨inner, readBoth, rfl⟩ := Rule.reads_map_iff.mp read
    obtain ⟨mark, behind, readMark, readAtom⟩ :=
      Rule.reads_skipThen_iff.mp readBoth
    obtain ⟨kind, passesMark⟩ := Rule.reads_token_iff.mp readMark
    obtain ⟨tokens, passes, derived⟩ := sound readAtom
    refine ⟨mark :: tokens, passesMark.append passes, ?_⟩
    rw [derived.star_eq]
    exact .starBefore kind derived
  · obtain rfl := List.mem_singleton.mp later
    obtain ⟨⟨inner, mark⟩, readBoth, same⟩ := Rule.reads_map_iff.mp read
    obtain ⟨middle, readAtom, readMark⟩ := Rule.reads_andThen_iff.mp readBoth
    obtain ⟨tokens, passes, derived⟩ := sound readAtom
    rcases readMark.optional_cases with ⟨found, rfl, readFound⟩ | ⟨rfl, rfl⟩
    · obtain ⟨kind, passesMark⟩ := Rule.reads_token_iff.mp readFound
      refine ⟨tokens ++ [found], passes.append passesMark, ?_⟩
      obtain rfl : star inner = pattern := same
      rw [derived.star_eq]
      exact .starBehind kind derived
    · obtain rfl : inner = pattern := same
      exact ⟨tokens, passes, .atom derived⟩

theorem rule_sound (depth : Nat) :
    (rule readRegex depth).Sound (Derives readRegex) := by
  induction depth with
  | zero =>
      intro cursor next pattern reads
      obtain ⟨passed, result⟩ := reads
      simp [rule, Outcome.refuse] at result
  | succ depth sound =>
      apply (termRule_sound (atomRule_sound sound)).separatedChain.map
      intro tokens options derived
      obtain ⟨pieces, chained, terms⟩ := derived
      exact derives_iff_chained.mpr ⟨pieces, options, chained, terms, rfl⟩

end Pattern

end TreeQuery

import TreeQuery.Proofs.Pattern.Compiled
import TreeQuery.Proofs.Reading.Continuation
import TreeQuery.Proofs.Reading.Judging

/-!
# The first offence is reported

A text of the right shape is refused just when something in it offends, and then
where the first offence starts.  So the expressions of a pattern that is read are
all there.
-/

namespace TreeQuery

open Reading

/-! ## Values -/

namespace Value

variable {compiles : String → Prop} {item : Rule Value} {judged : Judgement}
  {language : Language Token}

theorem rules_judge (shapely : Shapely .value language)
    (settles : judged.Settles language)
    (judges : item.Judges
      (Rule.Judging (fun _ => (none : Option String)) .value judged))
    (quiet : item.Quiet) :
    Rule.JudgeEach compiles (fun _ => (none : Option String)) .value judged
      (constrRule .identifier Rule.identifier item :: otherRules item)
      Dialect.value.branches := by
  have name : Rule.identifier.Judges fun tokens offences _ =>
      Judgement.clear (ofKinds [.identifier]) tokens offences :=
    (Rule.token_judges_clear _).mapped
  have arguments := Rule.Judges.arguments name
    (fun _ known => shapely.proper (settles.member known)) judges
    (fun _ => Rule.token_emitted) quiet
  have quoted : (Rule.quoted .string).Judges fun tokens offences _ =>
      Judgement.single compiles [.string] tokens offences :=
    Rule.quoted_judges (by decide)
  exact .cons (Rule.identifier_judges.call arguments fun _ => rfl) <|
    .cons (quoted.mapped.call arguments fun _ => rfl) <|
    .cons (quoted.branch shapely settles (by decide) (by decide) fun _ => rfl) <|
    Rule.Judges.sharedRules shapely settles judges quiet (fun _ => rfl)
      (fun _ => rfl) (fun _ => rfl) (fun _ => rfl) (fun _ => rfl) (fun _ => rfl)
      fun _ => rfl

theorem rule_judges (compiles : String → Prop) (depth : Nat) :
    (rule depth).Judges (Rule.Judging (fun _ => (none : Option String)) .value
      (Judgement.within compiles .value depth)) := by
  induction depth with
  | zero =>
      intro cursor progress result
      cases result
  | succ depth induction =>
      exact (rules_judge (shapely_shapedWithin .value depth)
        (Judgement.settles_within compiles .value depth) induction
        (rule_quiet depth)).firstOf

end Value

/-! ## Patterns -/

namespace Pattern

/-- The expressions that the reader accepts. -/
def Compiles (readRegex : RegexReader) (body : String) : Prop :=
  ∃ regex, readRegex body = .ok regex

section

variable {readRegex : RegexReader} {item : Rule Pattern} {judged : Judgement}
  {language : Language Token}

/-- An expression that is refused is emitted where it starts. -/
theorem regexRule_judges {kinds : List Token.Kind} (known : .regex ∈ kinds) :
    (regexRule readRegex).Judges fun tokens offences _ =>
      Judgement.single (Compiles readRegex) kinds tokens offences := by
  have body : ((Rule.token .regex).map Token.body).Judges
      fun tokens offences body => ∃ token : Token, tokens = [token] ∧
        token.kind = .regex ∧ offences = [] ∧ token.body = body :=
    (Rule.token_judges .regex).map fun tokens offences found derived =>
      ⟨found, derived.1, derived.2.1, derived.2.2, rfl⟩
  apply body.located.inspect
  intro tokens offences found derived
  obtain ⟨body, start⟩ := found
  obtain ⟨⟨token, rfl, kind, rfl, rfl⟩, starts⟩ := derived
  cases outcome : readRegex token.body with
  | ok regex =>
      refine ⟨[], by simp only [outcome, List.map_nil], ?_⟩
      exact .fair (kind ▸ known) fun _ => ⟨regex, outcome⟩
  | error message =>
      have place : start = token.start := starts token rfl
      refine ⟨[token], by simp only [outcome, List.map_cons, List.map_nil, place],
        ?_⟩
      refine .broken (kind ▸ known) kind ?_
      intro compiled
      obtain ⟨regex, other⟩ := compiled
      cases outcome.symm.trans other

theorem nameRule_judges :
    (nameRule readRegex).Judges fun tokens offences _ =>
      Judgement.single (Compiles readRegex) [.identifier, .string, .regex, .text]
        tokens offences := by
  have token {kind : Token.Kind}
      (known : kind ∈ [Token.Kind.identifier, .string, .regex, .text])
      (other : kind ≠ .regex) :
      (Rule.token kind).Judges fun tokens offences _ =>
        Judgement.single (Compiles readRegex)
          [.identifier, .string, .regex, .text] tokens offences :=
    Rule.token_judges_single known other
  apply Rule.Judges.firstOf
  simp only [List.forall_mem_cons]
  refine ⟨?_, ?_, ?_, ?_, List.forall_mem_nil _⟩
  · exact (token (by decide) (by decide)).mapped.mapped
  · exact (token (by decide) (by decide)).mapped.mapped
  · exact (regexRule_judges (by decide)).mapped
  · exact (token (by decide) (by decide)).mapped.mapped

theorem anyRule_judges :
    ((Rule.token .underscore).orElse (Rule.token .dot)).Judges
      fun tokens offences _ => Judgement.branch (Compiles readRegex) .pattern
        judged (.leaf [.underscore, .dot]) tokens offences :=
  (Rule.token_judges_single (by decide) (by decide)).orElse
    (Rule.token_judges_single (by decide) (by decide))

/-- An expression or a text names an argument. -/
theorem Judges.name {α : Type} {rule : Rule α} {change : α → Pattern}
    {kind : Token.Kind} (known : kind ∈ Dialect.pattern.names)
    (judges : rule.Judges fun tokens offences _ =>
      Judgement.single (Compiles readRegex) [kind] tokens offences)
    (named : ∀ value, (fieldName? (change value)).isSome = true) :
    (rule.map change).Judges (Rule.Judging fieldName? .pattern
      (Judgement.branch (Compiles readRegex) .pattern judged (.leaf [kind]))) := by
  apply judges.map
  intro tokens offences value derived
  refine ⟨derived, iff_of_true (named value) ?_⟩
  obtain ⟨token, rfl, same⟩ := (Judgement.settles_single [kind]).member derived
  rw [← List.mem_singleton.mp same] at known
  exact ⟨token, rfl, known⟩

theorem rules_judge (shapely : Shapely .pattern language)
    (settles : judged.Settles language)
    (judges : item.Judges (Rule.Judging fieldName? .pattern judged))
    (quiet : item.Quiet) :
    Rule.JudgeEach (Compiles readRegex) fieldName? .pattern judged
      (anyRule :: constrRule readRegex item :: plainRules readRegex item)
      Dialect.pattern.branches := by
  have name : (Rule.identifier.map NamePattern.identifier).Judges
      fun tokens offences _ =>
        Judgement.clear (ofKinds [.identifier]) tokens offences :=
    (Rule.token_judges_clear _).mapped.mapped
  have arguments := Rule.Judges.arguments name
    (fun _ known => shapely.proper (settles.member known)) judges
    (fun _ => Rule.token_emitted) quiet
  have quoted {kind : Token.Kind} (other : kind ≠ .regex) :
      (Rule.quoted kind).Judges fun tokens offences _ =>
        Judgement.single (Compiles readRegex) [kind] tokens offences :=
    Rule.quoted_judges other
  exact .cons (anyRule_judges.branch shapely settles (by decide) (by decide)
      fun _ => rfl) <|
    .cons (nameRule_judges.call arguments fun _ => rfl) <|
    .cons ((quoted (by decide)).branch shapely settles (by decide) (by decide)
      fun _ => rfl) <|
    .cons (Judges.name (by decide) (regexRule_judges (by decide)) fun _ => rfl) <|
    .cons (Judges.name (by decide) (quoted (by decide)) fun _ => rfl) <|
    Rule.Judges.sharedRules shapely settles judges quiet (fun _ => rfl)
      (fun _ => rfl) (fun _ => rfl) (fun _ => rfl) (fun _ => rfl) (fun _ => rfl)
      fun _ => rfl

theorem termRule_judges {atom : Rule Pattern} (proper : ∀ offences, ¬judged [] offences)
    (judges : atom.Judges (Rule.Judging fieldName? .pattern judged)) :
    (termRule atom).Judges
      (Rule.Judging fieldName? .pattern (Judgement.term judged)) := by
  have star {mark : Token} (kind : mark.kind = .star) :
      [mark] ∈ ofKinds [.star] := ⟨mark, rfl, List.mem_singleton.mpr kind⟩
  have nonempty {tokens offences : List Token} (known : judged tokens offences) :
      tokens ≠ [] := fun empty => proper _ (empty ▸ known)
  apply Rule.Judges.firstOf
  simp only [List.forall_mem_cons]
  refine ⟨?_, ?_, List.forall_mem_nil _⟩
  · apply (judges.skipToken .star).map
    intro tokens offences inner derived
    obtain ⟨mark, rest, rfl, kind, known, -⟩ := derived
    refine ⟨.inl ⟨[mark], rest, [], offences, rfl, rfl, ⟨star kind, rfl⟩, known⟩,
      ?_⟩
    rw [fieldName?_star]
    exact iff_of_false Bool.false_ne_true
      (Judgement.not_name_of_append (List.cons_ne_nil mark []) (nonempty known))
  · apply (judges.andThen (Rule.token_judges .star).optional).map
    intro tokens offences parts derived
    obtain ⟨inner, found⟩ := parts
    obtain ⟨front, _, before, _, rfl, rfl, ⟨known, names⟩, followed⟩ := derived
    rcases followed with ⟨none, rfl, rfl⟩ | ⟨mark, some, rfl, kind, rfl⟩
    · obtain rfl : found = .none := none
      refine ⟨.inr ⟨front, [], before, [], rfl, rfl, known, .inl rfl, rfl⟩, ?_⟩
      rwa [List.append_nil]
    · obtain rfl : found = .some mark := some
      refine ⟨.inr ⟨front, [mark], before, [], rfl, rfl, known,
        .inr (star kind), rfl⟩, ?_⟩
      simp only [fieldName?_star]
      exact iff_of_false Bool.false_ne_true
        (Judgement.not_name_of_append (nonempty known) (List.cons_ne_nil _ _))

theorem chain_judges {rule : Rule Pattern}
    (proper : ∀ offences, ¬judged [] offences) (quiet : rule.Quiet)
    (judges : rule.Judges (Rule.Judging fieldName? .pattern judged)) :
    ((rule.separatedChain (Rule.token .alternation)).map alternatives).Judges
      (Rule.Judging fieldName? .pattern (Judgement.chained judged)) := by
  apply (judges.separatedChain quiet).map
  intro tokens offences options derived
  obtain ⟨items, chain, all, rfl⟩ := derived
  refine ⟨⟨items, chain, forall_mem_of_forall₂ all fun _ _ known => known.1,
    rfl⟩, ?_⟩
  cases all with
  | nil => cases chain
  | @cons piece option items options first others =>
      obtain ⟨rest, rfl, tail⟩ := chain.exists_rest
      cases others with
      | nil =>
          rcases tail with ⟨-, rfl⟩ | ⟨_, _, -, -, later⟩
          · rw [List.append_nil]
            exact first.2
          · cases later
      | cons =>
          rcases tail with ⟨none, -⟩ | ⟨bar, inner, rfl, -⟩
          · cases none
          · -- With a bar behind the first term there are more tokens than one.
            refine iff_of_false Bool.false_ne_true
              (Judgement.not_name_of_append ?_ (List.cons_ne_nil _ _))
            exact fun empty => proper _ (empty ▸ first.1)

theorem rule_judges (depth : Nat) :
    (rule readRegex depth).Judges (Rule.Judging fieldName? .pattern
      (Judgement.within (Compiles readRegex) .pattern depth)) := by
  induction depth with
  | zero =>
      intro cursor progress result
      cases result
  | succ depth induction =>
      have shapely := shapely_shapedWithin .pattern depth
      have settles := Judgement.settles_within (Compiles readRegex) .pattern depth
      have atoms : (atomRule readRegex (rule readRegex depth)).Judges
          (Rule.Judging fieldName? .pattern (Judgement.atom (Compiles readRegex)
            .pattern (Judgement.within (Compiles readRegex) .pattern depth))) :=
        (rules_judge shapely settles induction (rule_quiet readRegex depth)).firstOf
      have settled : (Judgement.atom (Compiles readRegex) .pattern
          (Judgement.within (Compiles readRegex) .pattern depth)).Settles
          (atom loose .pattern (shapedWithin .pattern depth)) :=
        settles.atom shapely
      have proper := shapely.nil_not_mem_atom
      have terms := termRule_judges (fun _ known => proper (settled.member known))
        atoms
      have settled' := settled.term shapely.atom_profile proper (by decide)
      exact chain_judges
        (fun _ known => nil_not_mem_term proper (settled'.member known))
        (Rule.firstOf_quiet _ _) terms

end

end Pattern

/-! ## Reports -/

/-- Reading fails just when something offends, and then where the first offence
starts. -/
structure ReportsFirst {α : Type} (source : String) (offences : List Token)
    (read : Except SyntaxFailure α) : Prop where
  fails : (∃ failure, read = .error failure) ↔ offences ≠ []
  first : ∀ failure, read = .error failure →
    (∃ token ∈ offences, failure.index = charOffset source token.start) ∧
      ∀ token ∈ offences, failure.index ≤ charOffset source token.start

section

variable {α : Type} {compiles : String → Prop} {dialect : Dialect}
  {forValues : Bool} {rule : List Token → Rule α} {source : String}
  {offences : List Token}

private theorem reportsFirst_of_emitted {progress : Progress α}
    (result : (wholeReading rule source).result = .ok progress)
    (emitted : (wholeReading rule source).emitted.map Fault.start =
      offences.map Token.start)
    (boundary : ∀ met ∈ (wholeReading rule source).emitted,
      Boundary source met.start) :
    ReportsFirst source offences (readAll forValues rule source) := by
  have ends : (wholeReading rule source).emitted = [] ∧
        readAll forValues rule source = .ok progress.value ∨
      ∃ fault ∈ (wholeReading rule source).emitted,
        readAll forValues rule source =
          .error (failureOf source forValues fault) ∧
        ∀ met ∈ (wholeReading rule source).emitted, fault.start ≤ met.start :=
    readAll_of_ok result
  rcases ends with ⟨none, read⟩ | ⟨fault, among, read, least⟩
  · rw [none] at emitted
    obtain rfl := List.map_eq_nil_iff.mp emitted.symm
    rw [read]
    exact ⟨iff_of_false nofun fun some => some rfl, nofun⟩
  · have start : fault.start ∈ offences.map Token.start :=
      emitted ▸ List.mem_map_of_mem among
    obtain ⟨token, offends, same⟩ := List.mem_map.mp start
    rw [read]
    refine ⟨iff_of_true ⟨_, rfl⟩ (List.ne_nil_of_mem offends), ?_⟩
    intro failure reported
    cases reported
    refine ⟨⟨token, offends, congrArg (charOffset source) same.symm⟩, ?_⟩
    intro other offends'
    have start' : other.start ∈ (wholeReading rule source).emitted.map
        Fault.start := emitted ▸ List.mem_map_of_mem offends'
    obtain ⟨met, among', same'⟩ := List.mem_map.mp start'
    rw [← same']
    -- Faults are compared by bytes, and characters keep that order at boundaries.
    exact (charOffset_le_iff (boundary fault among) (boundary met among')).mpr
      (least met among')

section

variable (rule) (tracks : ∀ depth, (tokenize source).length + 1 ≤ depth →
    (rule (tokenize source)).Tracks 2 ((tokenize source).length + 1)
      (shapedWithin dialect depth))
  (judges : (rule (tokenize source)).Judges fun tokens offences _ =>
    Offends compiles dialect tokens offences)

include tracks judges

/-- A text of the right shape is read to its end, and the faults emitted start
where it offends. -/
private theorem exists_offends (shape : tokenize source ∈ shaped dialect) :
    ∃ progress offences, (wholeReading rule source).result = .ok progress ∧
      Offends compiles dialect (tokenize source) offences ∧
      (wholeReading rule source).emitted.map Fault.start =
        offences.map Token.start ∧
      ∀ met ∈ (wholeReading rule source).emitted, Boundary source met.start := by
  obtain ⟨depth, less, member⟩ :=
    exists_mem_shapedWithin ((tokenize source).length + 1) shape
  have whole : (startOf source (tokenize source)).ahead ∈
      shapedWithin dialect depth := member
  obtain ⟨progress, result, ends, objects⟩ :=
    (tracks depth less).exists_whole (Nat.lt_succ_self _) whole
  obtain ⟨last, finished, -⟩ := Rule.thenSkip_finish_ok result ends
  obtain ⟨tokens, offences, passes, emitted, offends⟩ := judges result
  obtain rfl : tokens = tokenize source := by
    simpa [ends, startOf] using passes.ahead.symm
  have same : (wholeReading rule source).emitted =
      (rule (tokenize source) (startOf source (tokenize source))).emitted :=
    Rule.thenSkip_finish_emitted
  refine ⟨last, offences, finished, offends, same ▸ emitted, ?_⟩
  rw [same]
  intro met among
  obtain ⟨-, token, inside, start⟩ := objects met among
  rw [start]
  exact boundary_start inside

private theorem reportsFirst_of_offends
    (offends : Offends compiles dialect (tokenize source) offences) :
    ReportsFirst source offences (readAll forValues rule source) := by
  obtain ⟨progress, offences', finished, offends', emitted, boundary⟩ :=
    exists_offends rule tracks judges
    offends.mem_shaped
  obtain rfl := offends'.unique offends
  exact reportsFirst_of_emitted finished emitted boundary

end

end

/-- The texts of the right shape are those that derive with their offences.  They
are refused just when something in them offends, and then where the first offence
starts.  The expressions of a pattern that is read are all there. -/
theorem reportsFirst (readRegex : Pattern.RegexReader) (source : String) :
    (∀ dialect, tokenize source ∈ shaped dialect ↔ ∃ offences,
        Offends (Pattern.Compiles readRegex) dialect (tokenize source) offences) ∧
      (∀ offences, Offends (Pattern.Compiles readRegex) .value (tokenize source)
        offences → ReportsFirst source offences (Value.read source)) ∧
      (∀ offences, Offends (Pattern.Compiles readRegex) .pattern
        (tokenize source) offences →
          ReportsFirst source offences (Pattern.readWith readRegex source)) ∧
      ∀ pattern, Pattern.readWith readRegex source = .ok pattern →
        ∀ expression, pattern.Contains expression → expression.regex ≠ none := by
  have values : (Value.rule ((tokenize source).length + 1)).Judges
      fun tokens offences _ =>
        Offends (Pattern.Compiles readRegex) .value tokens offences :=
    (Value.rule_judges _ _).mono fun _ _ _ known => ⟨_, known.1⟩
  have patterns : (Pattern.rule readRegex ((tokenize source).length + 1)).Judges
      fun tokens offences _ =>
        Offends (Pattern.Compiles readRegex) .pattern tokens offences :=
    (Pattern.rule_judges _).mono fun _ _ _ known => ⟨_, known.1⟩
  refine ⟨?_, ?_, ?_, ?_⟩
  · intro dialect
    refine ⟨?_, fun derived => derived.choose_spec.mem_shaped⟩
    intro shape
    cases dialect with
    | value =>
        obtain ⟨_, offences, -, offends, -⟩ := exists_offends
          (fun tokens => Value.rule (tokens.length + 1))
          (fun _ => Value.rule_tracks) values shape
        exact ⟨offences, offends⟩
    | pattern =>
        obtain ⟨_, offences, -, offends, -⟩ := exists_offends
          (fun tokens => Pattern.rule readRegex (tokens.length + 1))
          (fun _ => Pattern.rule_tracks readRegex) patterns shape
        exact ⟨offences, offends⟩
  · intro offences offends
    exact reportsFirst_of_offends _ (fun _ => Value.rule_tracks) values offends
  · intro offences offends
    exact reportsFirst_of_offends _ (fun _ => Pattern.rule_tracks readRegex)
      patterns offends
  · intro pattern read expression contains
    exact contains.compiled (Pattern.derives_of_readWith read)

/-- An argument that misses its name and an expression that misses a parenthesis
are reported where they start; an expression that misses nothing is read. -/
theorem reportsFirst_of_missing :
    let stray : Token := ⟨.number, ['2'], 6, 7⟩
    let broken : Token := ⟨.regex, ['/', '(', '/'], 0, 3⟩
    ReportsFirst "f(x=1,2)" [stray] (Value.read "f(x=1,2)") ∧
      ReportsFirst "/(/" [broken] (Pattern.readWith Pattern.regexReader "/(/") ∧
      ∃ pattern expression,
        Pattern.readWith Pattern.regexReader "/a/" = .ok pattern ∧
        pattern.Contains expression ∧ expression.regex ≠ none := by
  intro stray broken
  refine ⟨?_, ?_, ?_⟩
  · apply (reportsFirst Pattern.regexReader "f(x=1,2)").2.1
    let field : List Token :=
      [⟨.identifier, ['x'], 2, 3⟩, ⟨.equals, ['='], 3, 4⟩, ⟨.number, ['1'], 4, 5⟩]
    let comma : Token := ⟨.comma, [','], 5, 6⟩
    have number {token : Token} (kind : token.kind = .number) :
        Judgement.within (Pattern.Compiles Pattern.regexReader) .value 1 [token]
          [] :=
      ⟨.leaf [.number], by decide, .fair (List.mem_singleton.mpr kind)
        fun other => by rw [kind] at other; cases other⟩
    have call : tokenize "f(x=1,2)" = [⟨.identifier, ['f'], 0, 1⟩] ++
        ⟨.openParen, ['('], 1, 2⟩ :: ((field ++ comma :: [stray]) ++
          [⟨.closeParen, [')'], 7, 8⟩]) := rfl
    rw [call]
    refine ⟨2, .call [.identifier], by decide, _, _, [], [stray], rfl, rfl,
      .fair (by decide) nofun, ?_⟩
    refine ⟨[⟨field, true, []⟩, ⟨[stray], false, []⟩],
      ⟨_, _, _, rfl, rfl, rfl, .more field rfl (.last [stray])⟩, ?_, rfl⟩
    simp only [List.forall_mem_cons]
    exact ⟨.field rfl rfl (number rfl), .positional (number rfl),
      List.forall_mem_nil _⟩
  · apply (reportsFirst Pattern.regexReader "/(/").2.2.1
    have refused : ¬Pattern.Compiles Pattern.regexReader "(" := by
      intro compiled
      obtain ⟨regex, read⟩ := compiled
      have unclosed : Regex.read "(" =
        .error (.fault ⟨.groupUnclosed, ⟨0, 1⟩, none⟩) := rfl
      rw [Pattern.regexReader, Regex.compile, unclosed] at read
      cases read
    have atom {inner : Judgement} : Judgement.atom
        (Pattern.Compiles Pattern.regexReader) .pattern inner [broken] [broken] :=
      ⟨.leaf [.regex], by decide, .broken (by decide) rfl refused⟩
    exact ⟨1, [([broken], [broken])], .last [broken],
      List.forall_mem_singleton.mpr
        (.inr ⟨[broken], [], [broken], [], rfl, rfl, atom, .inl rfl, rfl⟩), rfl⟩
  · let letter : Regex := .chars ⟨#[(97, 97)]⟩
    let expression : RegexPattern := ⟨"a", some letter.search⟩
    have read : Pattern.readWith Pattern.regexReader "/a/" =
        .ok (.regex expression) := rfl
    have reports := reportsFirst Pattern.regexReader "/a/"
    exact ⟨_, expression, read, .regex,
      reports.2.2.2 _ read expression .regex⟩

end TreeQuery

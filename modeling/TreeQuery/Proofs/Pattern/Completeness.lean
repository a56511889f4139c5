import TreeQuery.Proofs.Pattern.Soundness

/-!
# Patterns that can be read

Whatever tokens derive a pattern, the rule for patterns reads them, where
nothing follows that would continue the pattern.  A text is read exactly when
its tokens derive a pattern.
-/

namespace TreeQuery

open Reading

namespace Pattern

variable {readRegex : RegexReader} {cursor next : Cursor} {pattern : Pattern}

/-! ## Names and expressions -/

theorem regexRule_complete :
    (regexRule readRegex).Complete (DerivesRegex readRegex)
      fun _ => False := by
  intro cursor next tokens expression derived passes _
  obtain ⟨token, regex, rfl, kind, outcome, rfl⟩ := derived
  have readBody : ((Rule.token .regex).map Token.body).Reads cursor token.body
      next :=
    Rule.reads_map_iff.mpr ⟨token, Rule.reads_token_iff.mpr ⟨kind, passes⟩, rfl⟩
  apply Rule.reads_inspect_iff.mpr
  refine ⟨(token.body, cursor.start), ?_, by simp [outcome]⟩
  exact Rule.reads_located_iff.mpr ⟨readBody, rfl⟩

theorem DerivesRegex.nextKind?_eq {tokens : List Token}
    {expression : RegexPattern}
    (derived : DerivesRegex readRegex tokens expression)
    (passes : cursor.Passes tokens next) : cursor.nextKind? = some .regex := by
  obtain ⟨token, _, rfl, same, _⟩ := derived
  rw [passes.nextKind?_eq, same]

theorem regexRule_startsWith : (regexRule readRegex).StartsWith [.regex] :=
  ((Rule.token_startsWith .regex).map _).located.inspect _

/-- The kinds of token that names other than identifiers start with. -/
def otherNameKinds : List (List Token.Kind) :=
  [[.string], [.regex], [.text]]

theorem otherNames_startWith : List.Forall₂ Rule.StartsWith
    [(Rule.quoted .string).map fun name => NamePattern.quoted name.plain,
    (regexRule readRegex).map .regex, (Rule.quoted .text).map .text]
    otherNameKinds :=
  .cons (((Rule.token_startsWith .string).map _).map _) <|
    .cons (regexRule_startsWith.map _) <|
    .cons (((Rule.token_startsWith .text).map _).map _) .nil

theorem nameRule_startsWith : (nameRule readRegex).StartsWith nameKinds :=
  (((Rule.token_startsWith .identifier).map _).map _).firstOf
    otherNames_startWith

theorem nameRule_complete :
    (nameRule readRegex).Complete (DerivesName readRegex)
      fun _ => False := by
  intro cursor next tokens name derived passes fits
  have noIdentifier {kind : Token.Kind} (here : cursor.nextKind? = some kind)
      (other : kind ≠ .identifier) :
      (Rule.identifier.map NamePattern.identifier).Refuses cursor := by
    apply Rule.Refuses.map
    apply Rule.Refuses.map
    apply Rule.token_refuses
    simp [here, other]
  cases derived with
  | identifier found =>
      apply Rule.Reads.firstOf_first
      exact Rule.token_complete.map _ ⟨_, found, rfl⟩ passes fits
  | quoted found =>
      have here := found.nextKind?_eq passes
      apply Rule.Reads.firstOf_index otherNames_startWith 0 rfl
        (noIdentifier here (by simp))
      · simp
      · obtain ⟨token, rfl, kind, rfl⟩ := found
        exact Rule.token_complete.map _ ⟨_, ⟨token, rfl, kind, rfl⟩, rfl⟩ passes
          fits
  | regex found =>
      have here := found.nextKind?_eq passes
      apply Rule.Reads.firstOf_index otherNames_startWith 1 rfl
        (noIdentifier here (by simp))
      · simp [otherNameKinds, here]
      · exact regexRule_complete.map _ ⟨_, found, rfl⟩ passes fits
  | text found =>
      have here := found.nextKind?_eq passes
      apply Rule.Reads.firstOf_index otherNames_startWith 2 rfl
        (noIdentifier here (by simp))
      · simp [otherNameKinds, here]
      · exact Rule.token_complete.map _ ⟨_, found, rfl⟩ passes fits

/-! ## Beginnings -/

/-- The kinds of token that plain atoms start with. -/
def plainKinds : List (List Token.Kind) :=
  [[.string], [.regex], [.text], [.openParen], [.openBrace], [.openBracket],
  [.openAngle], [.number], [.trueWord, .falseWord], [.location]]

theorem plainRules_startWith (item : Rule Pattern) :
    List.Forall₂ Rule.StartsWith (plainRules readRegex item) plainKinds := by
  have token (kind : Token.Kind) := Rule.token_startsWith kind
  have between {α : Type} {opening closing : Token.Kind} {rule : Rule α}
      {change : α → Pattern} :
      ((rule.between opening closing).map change).StartsWith [opening] :=
    (Rule.between_startsWith rule).map change
  exact .cons (((token .string).map _).map _) <|
    .cons (regexRule_startsWith.map _) <|
    .cons (((token .text).map _).map _) <| .cons between <| .cons between <|
    .cons between <| .cons between <| .cons (((token .number).map _).map _) <|
    .cons (Rule.boolean_startsWith.map _) <|
    .cons (Rule.location_startsWith.map _) .nil

theorem anyRule_startsWith : anyRule.StartsWith [.underscore, .dot] :=
  ((Rule.token_startsWith .underscore).orElse
    (Rule.token_startsWith .dot)).map _

theorem constrRule_startsWith (item : Rule Pattern) :
    (constrRule readRegex item).StartsWith nameKinds :=
  (nameRule_startsWith.andThen _).map _

/-- The kinds of token that a pattern starts with, some of them repeated. -/
def ruleKinds : List Token.Kind :=
  .star :: ([.underscore, .dot] ++ (nameKinds :: plainKinds).flatten)

theorem atomRule_startsWith (item : Rule Pattern) :
    (atomRule readRegex item).StartsWith
      ([.underscore, .dot] ++ (nameKinds :: plainKinds).flatten) :=
  anyRule_startsWith.firstOf
    (.cons (constrRule_startsWith item) (plainRules_startWith item))

/-- No pattern starts with a token of another kind. -/
theorem rule_refuses {depth : Nat} {kind : Token.Kind}
    (here : cursor.nextKind? = some kind) (absent : kind ∉ ruleKinds) :
    (rule readRegex depth).Refuses cursor := by
  have differ := Cursor.nextKind?_ne_of_not_mem here absent
  obtain ⟨notStar, notAtom⟩ := List.forall_mem_cons.mp differ
  cases depth with
  | zero => exact ⟨_, rfl⟩
  | succ depth =>
      have refuses :
          (atomRule readRegex (rule readRegex depth)).Refuses cursor :=
        atomRule_startsWith _ cursor notAtom
      apply Rule.Refuses.map
      apply Rule.Refuses.separatedChain
      apply Rule.Refuses.firstOf
      · exact (Rule.token_refuses notStar).skipThen.map
      · exact List.forall_mem_singleton.mpr refuses.andThen.map

/-! ## Terms -/

theorem termRule_complete {atom : Rule Pattern} {bound : Nat}
    (complete : atom.Complete (Within bound (DerivesAtom readRegex))
      (· = .openParen)) :
    (termRule atom).Complete (Within bound (DerivesTerm readRegex))
      fun kind => kind = .openParen ∨ kind = .star := by
  intro cursor next tokens pattern derived passes fits
  obtain ⟨short, derived⟩ := derived
  have fitsAtom : ∀ kind ∈ next.nextKind?, ¬kind = .openParen :=
    fun kind member opens => fits kind member (.inl opens)
  have noStar {before behind : Cursor} {piece : List Token} {inner : Pattern}
      (found : DerivesAtom readRegex piece inner)
      (passesPiece : before.Passes piece behind) :
      (((Rule.token .star).skipThen atom).map star).Refuses before := by
    obtain ⟨first, others, rfl, kind⟩ := found.exists_first
    refine (Rule.token_refuses ?_).skipThen.map
    intro same
    rw [passesPiece.nextKind?_eq] at same
    rw [Option.some.inj same] at kind
    simp [atomKinds] at kind
  cases derived with
  | atom found =>
      apply Rule.Reads.firstOf_other [] [] (noStar found passes)
        (List.forall_mem_nil _)
      have unmarked : (Rule.token .star).optional.Reads next none next :=
        (Rule.token_refuses fun same => fits _ same (.inr rfl)).optional
      exact Rule.reads_map_iff.mpr ⟨(pattern, none),
        Rule.reads_andThen_iff.mpr
          ⟨next, complete ⟨short, found⟩ passes fitsAtom, unmarked⟩, rfl⟩
  | @starBefore mark tokens inner kind found =>
      apply Rule.Reads.firstOf_first
      obtain ⟨middle, passesMark, passesAtom⟩ :=
        Cursor.passes_cons_iff.mp passes
      have shortAtom : tokens.length ≤ bound := Nat.le_of_succ_le short
      have readAtom : atom.Reads middle inner next :=
        complete ⟨shortAtom, found⟩ passesAtom fitsAtom
      rw [← found.star_eq]
      exact Rule.reads_map_iff.mpr ⟨inner, Rule.reads_skipThen_iff.mpr
        ⟨mark, middle, Rule.reads_token_iff.mpr ⟨kind, passesMark⟩, readAtom⟩,
        rfl⟩
  | @starBehind mark tokens inner kind found =>
      obtain ⟨middle, passesAtom, passesMark⟩ :=
        Cursor.passes_append_iff.mp passes
      apply Rule.Reads.firstOf_other [] [] (noStar found passesAtom)
        (List.forall_mem_nil _)
      have shortAtom : tokens.length ≤ bound := by
        rw [List.length_append] at short
        omega
      have readAtom : atom.Reads cursor inner middle := by
        refine complete ⟨shortAtom, found⟩ passesAtom ?_
        exact passesMark.forall_nextKind? (by simp [kind])
      have marked : (Rule.token .star).optional.Reads middle (some mark) next :=
        (Rule.reads_token_iff.mpr ⟨kind, passesMark⟩).optional
      rw [← found.star_eq]
      exact Rule.reads_map_iff.mpr ⟨(inner, some mark),
        Rule.reads_andThen_iff.mpr ⟨middle, readAtom, marked⟩, rfl⟩

/-! ## Arguments -/

section

variable {depth bound : Nat} {item : Rule Pattern}

theorem identifierName_sound :
    (Rule.identifier.map NamePattern.identifier).Sound fun tokens _ =>
      ∃ token, tokens = [token] ∧ token.kind = .identifier := by
  intro cursor next name reads
  obtain ⟨_, read, rfl⟩ := Rule.reads_map_iff.mp reads
  obtain ⟨tokens, passes, token, same, kind, _⟩ := Rule.token_sound read
  exact ⟨tokens, passes, token, same, kind⟩

/-- A pattern that is one token and spells a field name. -/
theorem DerivesFieldName.exists_pattern {tokens : List Token}
    {name : NamePattern} (derived : DerivesFieldName readRegex tokens name) :
    (∃ spelled, DerivesToken .identifier Token.written tokens spelled ∧
      name = .identifier spelled) ∨
    ∃ token pattern, tokens = [token] ∧ token.kind ≠ .identifier ∧
      Derives readRegex tokens pattern ∧ fieldName? pattern = some name := by
  cases derived with
  | identifier found => exact .inl ⟨_, found, rfl⟩
  | regex found =>
      right
      have ⟨token, _, same, kind, _⟩ := found
      exact ⟨token, Pattern.regex _, same, by simp [kind],
        .term (.atom (.regex found)), rfl⟩
  | text found =>
      right
      have ⟨token, same, kind, _⟩ := found
      exact ⟨token, Pattern.text _, same, by simp [kind],
        .term (.atom (.text found)), rfl⟩

/-- An item that is no identifier with an equals sign behind it is not read as a
named argument. -/
theorem namedArgument_unread
    (apart : ∀ ⦃first second rest⦄, cursor.ahead = first :: second :: rest →
      first.kind = .identifier → second.kind ≠ .equals)
    (argument : Argument NamePattern Pattern) (stop : Cursor) :
    ¬(Rule.namedArgument (Rule.identifier.map NamePattern.identifier)
      item).Reads cursor argument stop := by
  intro read
  obtain ⟨first, second, rest, ahead, kind, isEquals⟩ :=
    identifierName_sound.namedArgument_ahead read
  exact apart ahead kind isEquals

/-- Arguments are read when items are, if neither what prevents an item nor an
equals sign follows. -/
theorem argument_complete {prevents : Token.Kind → Prop}
    (complete : item.Complete (Within bound (Derives readRegex)) prevents)
    (allowed : ¬prevents .equals) :
    ((Rule.namedArgument (Rule.identifier.map NamePattern.identifier)
      item).orElse (Rule.itemArgument item fieldName?)).Complete
        (DerivesArgument (DerivesFieldName readRegex)
          (Within bound (Derives readRegex)))
        fun kind => prevents kind ∨ kind = .equals := by
  intro cursor next tokens argument derived passes fits
  have fitsItem : ∀ kind ∈ next.nextKind?, ¬prevents kind :=
    fun kind member prevented => fits kind member (.inl prevented)
  cases argument with
  | positional pattern =>
      have alone : next.nextKind? ≠ some .equals :=
        fun equals => fits .equals equals (.inr rfl)
      apply Rule.Reads.orElse_second
      · apply namedArgument_unread
        intro first second rest ahead kind isEquals
        have opens := derived.2.parenthesis (passes.ahead.symm.trans ahead) kind
        -- Behind the identifier of an item comes a parenthesis, no equals sign.
        simp [isEquals] at opens
      · exact complete.positional derived passes fitsItem alone
  | named name pattern =>
      obtain ⟨left, equals, right, rfl, isEquals, derivedName, derivedItem⟩ :=
        derived
      rcases derivedName.exists_pattern with ⟨spelled, found, rfl⟩ |
        ⟨token, spelled, rfl, other, derivedName, called⟩
      · apply Rule.Reads.orElse_first
        apply Rule.reads_map_iff.mpr
        refine ⟨(.identifier spelled, pattern), ?_, rfl⟩
        exact ((Rule.token_complete.map _).separated complete id)
          ⟨left, equals, right, rfl, isEquals, ⟨spelled, found, rfl⟩,
            derivedItem⟩ passes fitsItem
      · apply Rule.Reads.orElse_second
        · apply namedArgument_unread
          intro first second rest ahead kind _
          obtain ⟨rfl, -⟩ := List.cons.inj (passes.ahead.symm.trans ahead)
          exact other kind
        · -- The name is read as an item, so it has to be short as well.
          have short : [token].length ≤ bound :=
            Nat.le_trans (List.length_pos_of_ne_nil derivedItem.2.nonempty)
              derivedItem.1
          exact complete.namedItem allowed ⟨short, derivedName⟩ called isEquals
            derivedItem passes fitsItem

end

/-- A token of these kinds behind a pattern continues it. -/
def Continues (kind : Token.Kind) : Prop :=
  (kind = .openParen ∨ kind = .star) ∨ kind = .alternation

section

variable {depth : Nat}
  (complete : (rule readRegex depth).Complete
    (Within depth (Derives readRegex)) Continues)

include complete

theorem arguments_complete :
    (Rule.arguments (Rule.identifier.map .identifier) (rule readRegex depth)
      fieldName?).Complete
        (DerivesArguments (DerivesFieldName readRegex)
          (Within depth (Derives readRegex)))
        fun _ => False := by
  apply (argument_complete complete (by simp [Continues])).arguments
  · intro tokens argument derived
    exact derived.nonempty fun _ _ found => found.2.nonempty
  · simp [Continues]
  · simp [Continues]
  · intro cursor closing
    have noName : (Rule.identifier.map NamePattern.identifier).Refuses cursor :=
      (Rule.token_refuses (by simp [closing])).map.map
    exact noName.argument (rule_refuses closing (by decide))

theorem constrRule_complete {head arguments : List Token}
    {pieces fieldPieces : List (List Token)} {name : NamePattern}
    {positional : List Pattern} {named : List (NamePattern × Pattern)}
    (derivedName : DerivesName readRegex head name)
    (enclosed : Enclosed .openParen .closeParen (pieces ++ fieldPieces)
      arguments)
    (items : List.Forall₂ (Derives readRegex) pieces positional)
    (fields : DerivesFields readRegex fieldPieces named)
    (short : (head ++ arguments).length ≤ depth + 1)
    (passes : cursor.Passes (head ++ arguments) next) :
    (constrRule readRegex (rule readRegex depth)).Reads cursor
      (constr name positional named) next := by
  obtain ⟨middle, passesHead, passesArguments⟩ :=
    Cursor.passes_append_iff.mp passes
  have shortArguments : arguments.length ≤ depth + 1 := by
    rw [List.length_append] at short
    omega
  have shortPieces := enclosed.forall_length_le shortArguments
  obtain ⟨shortItems, shortFields⟩ := List.forall_mem_append.mp shortPieces
  have fieldsWithin : List.Forall₂ (DerivesField (DerivesFieldName readRegex)
      (Within depth (Derives readRegex))) fieldPieces named :=
    (forall₂_within shortFields (derivesFields_iff_forall₂.mp fields)).imp
      fun _ _ => DerivesField.within
  have readArguments : (Rule.arguments (Rule.identifier.map .identifier)
      (rule readRegex depth) fieldName?).Reads middle (positional, named)
      next :=
    arguments_complete complete
      ⟨pieces, fieldPieces, enclosed, forall₂_within shortItems items,
        fieldsWithin⟩ passesArguments fun _ _ => id
  have readName := nameRule_complete derivedName passesHead fun _ _ => id
  apply Rule.reads_map_iff.mpr
  exact ⟨(name, positional, named),
    Rule.reads_andThen_iff.mpr ⟨middle, readName, readArguments⟩, rfl⟩

end

/-! ## Atoms -/

section

variable {item branch : Rule Pattern} {kind : Token.Kind} (index : Nat)
  (chosen : (plainRules readRegex item)[index]? = some branch)
  (here : cursor.nextKind? = some kind)
  (reads : branch.Reads cursor pattern next)

include chosen here reads

/-- A plain atom is read where no wildcard and no constructor is. -/
theorem plain_complete (noConstr : (constrRule readRegex item).Refuses cursor)
    (absent : kind ∉ .underscore :: .dot :: (plainKinds.take index).flatten) :
    (atomRule readRegex item).Reads cursor pattern next := by
  obtain ⟨notUnderscore, rest⟩ := List.forall_mem_cons.mp
    (Cursor.nextKind?_ne_of_not_mem here absent)
  obtain ⟨notDot, notPlain⟩ := List.forall_mem_cons.mp rest
  have noAny : anyRule.Refuses cursor := by
    apply anyRule_startsWith
    simp [notUnderscore, notDot]
  rw [atomRule_eq]
  apply Rule.Reads.firstOf_chosen (index + 1) chosen noAny _ reads
  rw [List.take_succ_cons, List.forall_mem_cons]
  exact ⟨noConstr, Rule.refuse_of_startWith
    (List.forall₂_take index (plainRules_startWith item)) notPlain⟩

/-- A plain atom that starts like no constructor is chosen by the kind of its
first token. -/
theorem plain_complete_of_kind
    (noName : kind ∉ nameKinds)
    (absent : kind ∉ .underscore :: .dot :: (plainKinds.take index).flatten) :
    (atomRule readRegex item).Reads cursor pattern next := by
  have noConstr : (constrRule readRegex item).Refuses cursor :=
    constrRule_startsWith item cursor
      (Cursor.nextKind?_ne_of_not_mem here noName)
  exact plain_complete index chosen here reads noConstr absent

/-- A plain atom that could be the name of a constructor is read where no
parenthesis follows. -/
theorem plain_complete_of_name {tokens : List Token} {name : NamePattern}
    (named : DerivesName readRegex tokens name)
    (passes : cursor.Passes tokens next)
    (fits : next.nextKind? ≠ some .openParen)
    (absent : kind ∉ .underscore :: .dot :: (plainKinds.take index).flatten) :
    (atomRule readRegex item).Reads cursor pattern next := by
  have readName := nameRule_complete named passes fun _ _ => id
  have noConstr : (constrRule readRegex item).Refuses cursor :=
    (readName.andThen_refuses (Rule.between_refuses fits).inspect).map
  exact plain_complete index chosen here reads noConstr absent

end

section

variable {depth : Nat} {pieces : List (List Token)} {tokens : List Token}
  (complete : (rule readRegex depth).Complete
    (Within depth (Derives readRegex)) Continues)
  (short : tokens.length ≤ depth + 1) (passes : cursor.Passes tokens next)

include complete short passes

/-- A delimited list of patterns is read when its items are. -/
theorem items_complete {opening closing : Token.Kind}
    {make : List Pattern → Pattern} {items : List Pattern} (index : Nat)
    (chosen : (plainRules readRegex (rule readRegex depth))[index]? = some
      ((Rule.delimitedList opening closing (rule readRegex depth)).map make))
    (noName : opening ∉ nameKinds)
    (absent : opening ∉
      .underscore :: .dot :: (plainKinds.take index).flatten)
    (notComma : closing ≠ .comma) (noStart : closing ∉ ruleKinds)
    (ends : ¬Continues closing)
    (enclosed : Enclosed opening closing pieces tokens)
    (derived : List.Forall₂ (Derives readRegex) pieces items) :
    (atomRule readRegex (rule readRegex depth)).Reads cursor (make items)
      next := by
  have shortPieces := enclosed.forall_length_le short
  have read : (Rule.delimitedList opening closing (rule readRegex depth)).Reads
      cursor items next :=
    complete.delimitedList (by simp [Continues]) ends notComma
      (fun cursor here => rule_refuses here noStart)
      ⟨pieces, enclosed, forall₂_within shortPieces derived⟩ passes
      fun _ _ => id
  apply plain_complete_of_kind index chosen (enclosed.nextKind?_eq passes) _
    noName absent
  exact Rule.reads_map_iff.mpr ⟨items, read, rfl⟩

theorem pairs_complete {pairs : List (Pattern × Pattern)}
    (enclosed : Enclosed .openParen .closeParen pieces tokens)
    (derived : DerivesPairs readRegex pieces pairs) :
    (Rule.delimitedList .openParen .closeParen
      (rule readRegex depth).entry).Reads cursor pairs next := by
  have shortPieces := enclosed.forall_length_le short
  have pairsWithin : List.Forall₂
      (DerivesEntry (Within depth (Derives readRegex))) pieces pairs :=
    (forall₂_within shortPieces (derivesPairs_iff_forall₂.mp derived)).imp
      fun _ _ => DerivesEntry.within
  have refuses (cursor : Cursor) (here : cursor.nextKind? = some .closeParen) :
      (Rule.entry (rule readRegex depth)).Refuses cursor :=
    (rule_refuses here (by decide)).thenSkip.andThen
  have completeEntry := complete.entry (by simp [Continues])
  exact completeEntry.delimitedList (by simp [Continues]) (by simp [Continues])
    (by simp) refuses ⟨pieces, enclosed, pairsWithin⟩ passes fun _ _ => id

end

theorem anyRule_complete :
    anyRule.Complete (fun tokens pattern => ∃ token, tokens = [token] ∧
      (token.kind = .underscore ∨ token.kind = .dot) ∧ pattern = any)
      fun _ => False := by
  intro cursor next tokens pattern derived passes _
  obtain ⟨token, rfl, kinds, rfl⟩ := derived
  refine Rule.reads_map_iff.mpr ⟨token, ?_, rfl⟩
  rcases kinds with underscore | dot
  · apply Rule.Reads.orElse_first
    exact Rule.reads_token_iff.mpr ⟨underscore, passes⟩
  · apply Rule.Reads.orElse_second
    · intro found stop read
      obtain ⟨underscore, passes'⟩ := Rule.reads_token_iff.mp read
      have same := passes.nextKind?_eq.symm.trans passes'.nextKind?_eq
      simp [dot, underscore] at same
    · exact Rule.reads_token_iff.mpr ⟨dot, passes⟩

theorem DerivesName.noAny {tokens others : List Token} {name : NamePattern}
    (derived : DerivesName readRegex tokens name)
    (passes : cursor.Passes (tokens ++ others) next) :
    anyRule.Refuses cursor := by
  have differ : ∀ kind ∈ nameKinds, kind ∉ [.underscore, .dot] := by decide
  obtain ⟨token, rfl, named⟩ := derived.exists_token
  apply anyRule_startsWith
  exact Cursor.nextKind?_ne_of_not_mem passes.nextKind?_eq (differ _ named)

theorem atomRule_complete {depth : Nat}
    (complete : (rule readRegex depth).Complete
      (Within depth (Derives readRegex)) Continues) :
    (atomRule readRegex (rule readRegex depth)).Complete
      (Within (depth + 1) (DerivesAtom readRegex)) (· = .openParen) := by
  intro cursor next tokens pattern derived passes fits
  obtain ⟨short, derived⟩ := derived
  have noParenthesis : next.nextKind? ≠ some .openParen :=
    fun opens => fits _ opens rfl
  have always : ∀ kind ∈ next.nextKind?, ¬False := fun _ _ => id
  cases derived with
  | any kinds =>
      rw [atomRule_eq]
      apply Rule.Reads.firstOf_first
      exact anyRule_complete ⟨_, rfl, kinds, rfl⟩ passes always
  | constr names enclosed items fields =>
      rw [atomRule_eq]
      apply Rule.Reads.firstOf_other [] _ (names.noAny passes)
        (List.forall_mem_nil _)
      exact constrRule_complete complete names enclosed items fields short
        passes
  | string found =>
      have read := Rule.token_complete.map string ⟨_, found, rfl⟩ passes always
      exact plain_complete_of_name 0 rfl (found.nextKind?_eq passes) read
        (.quoted (found.map _)) passes noParenthesis (by decide)
  | regex found =>
      have read := regexRule_complete.map regex ⟨_, found, rfl⟩ passes always
      exact plain_complete_of_name 1 rfl (found.nextKind?_eq passes) read
        (.regex found) passes noParenthesis (by decide)
  | text found =>
      have read := Rule.token_complete.map text ⟨_, found, rfl⟩ passes always
      exact plain_complete_of_name 2 rfl (found.nextKind?_eq passes) read
        (.text found) passes noParenthesis (by decide)
  | map enclosed pairs =>
      have read := pairs_complete complete short passes enclosed pairs
      apply plain_complete_of_kind 3 rfl (enclosed.nextKind?_eq passes) _
        (by decide) (by decide)
      exact Rule.reads_map_iff.mpr ⟨_, read, rfl⟩
  | set enclosed items =>
      exact items_complete complete short passes 4 rfl (by decide) (by decide)
        (by decide) (by decide) (by simp [Continues]) enclosed items
  | list enclosed items =>
      exact items_complete complete short passes 5 rfl (by decide) (by decide)
        (by decide) (by decide) (by simp [Continues]) enclosed items
  | tuple enclosed items =>
      exact items_complete complete short passes 6 rfl (by decide) (by decide)
        (by decide) (by decide) (by simp [Continues]) enclosed items
  | number found =>
      have read := Rule.token_complete.map number ⟨_, found, rfl⟩ passes always
      exact plain_complete_of_kind 7 rfl (found.nextKind?_eq passes) read
        (by decide) (by decide)
  | @boolean _ truth found =>
      have read := Rule.boolean_complete.map boolean ⟨_, found, rfl⟩ passes
        always
      obtain ⟨token, rfl, kind⟩ := found
      have here := passes.nextKind?_eq.trans (congrArg some kind)
      cases truth with
      | true =>
          exact plain_complete_of_kind 8 rfl here read (by decide) (by decide)
      | false =>
          exact plain_complete_of_kind 8 rfl here read (by decide) (by decide)
  | location found =>
      have read := Rule.location_complete.map location ⟨_, found, rfl⟩ passes
        fits
      exact plain_complete_of_kind 9 rfl (found.nextKind?_eq passes) read
        (by decide) (by decide)

/-! ## Patterns -/

theorem rule_complete (depth : Nat) :
    (rule readRegex depth).Complete (Within depth (Derives readRegex))
      Continues := by
  induction depth with
  | zero =>
      intro cursor next tokens pattern derived passes fits
      obtain ⟨short, derived⟩ := derived
      exact absurd (List.length_eq_zero_iff.mp (Nat.le_zero.mp short))
        derived.nonempty
  | succ depth complete =>
      intro cursor next tokens pattern derived passes fits
      obtain ⟨short, derived⟩ := derived
      obtain ⟨pieces, options, chained, terms, rfl⟩ :=
        derives_iff_chained.mp derived
      -- Terms may be as long as the whole; only items lie a level deeper.
      have shortPieces : ∀ piece ∈ pieces, piece.length ≤ depth + 1 :=
        fun piece member => Nat.le_trans (chained.length_le piece member) short
      have completeTerm := termRule_complete (atomRule_complete complete)
      exact (completeTerm.separatedChain (by simp)).map _
        ⟨options, ⟨pieces, chained, forall₂_within shortPieces terms⟩, rfl⟩
        passes fits

theorem derives_of_readWith {source : String} {pattern : Pattern}
    (result : readWith readRegex source = .ok pattern) :
    Derives readRegex (tokenize source) pattern :=
  (readAll_eq_ok_iff_derives (fun _ => rule_sound _)
    fun _ => rule_complete _).mp result

theorem readWith_of_derives {source : String} {pattern : Pattern}
    (derived : Derives readRegex (tokenize source) pattern) :
    readWith readRegex source = .ok pattern :=
  (readAll_eq_ok_iff_derives (fun _ => rule_sound _)
    fun _ => rule_complete _).mpr derived

/-- Reading a source gives a pattern exactly when the tokens of the source
derive it, whichever expressions can be read. -/
theorem readWith_eq_ok_iff_derives (readRegex : RegexReader) (source : String)
    (pattern : Pattern) :
    readWith readRegex source = .ok pattern ↔
      Derives readRegex (tokenize source) pattern :=
  ⟨derives_of_readWith, readWith_of_derives⟩

end Pattern

end TreeQuery

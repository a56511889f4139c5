import TreeQuery.Proofs.Value.Grammar
import TreeQuery.Value.Reader

/-!
# Reading and the grammar

The rule for values reads what the grammar derives and nothing else.  Each way
to read a value starts with a token of its own kind, but for nodes and strings,
which differ in the parenthesis behind the text.
-/

namespace TreeQuery

open Reading

namespace Value

section

variable {cursor next : Cursor} {tokens : List Token} {value : Value}

theorem Derives.nonempty (derived : Derives tokens value) : tokens ≠ [] := by
  cases value with
  | map | list | set | tuple =>
      obtain ⟨_, ⟨_, _, _, rfl, _⟩, _⟩ := derived
      exact List.cons_ne_nil _ _
  | constr =>
      obtain ⟨_, _, _, _, rfl, _, ⟨_, _, _, rfl, _⟩, _⟩ := derived
      simp
  | string | number | boolean =>
      obtain ⟨_, rfl, _⟩ := derived
      exact List.cons_ne_nil _ _
  | location =>
      obtain ⟨_, _, rfl, _⟩ := derived
      exact List.cons_ne_nil _ _

theorem constrRule_sound {kind : ConstructorKind} {name : Rule String}
    {item : Rule Value} (soundName : name.Sound (DerivesName kind))
    (sound : item.Sound Derives) :
    (constrRule kind name item).Sound Derives := by
  intro cursor next value reads
  obtain ⟨⟨given, positional, named⟩, read, rfl⟩ := Rule.reads_map_iff.mp reads
  obtain ⟨middle, readName, readArguments⟩ := Rule.reads_andThen_iff.mp read
  have soundArguments :
      (Rule.arguments .identifier item fun _ => none).Sound
        (DerivesArguments DerivesIdentifier Derives) :=
    Rule.Sound.arguments Rule.token_sound sound (by simp)
  obtain ⟨head, passesHead, names⟩ := soundName readName
  obtain ⟨tokens, passes, pieces, fieldPieces, enclosed, items, fields⟩ :=
    soundArguments readArguments
  exact ⟨head ++ tokens, passesHead.append passes, head, tokens, pieces,
    fieldPieces, rfl, names, enclosed, derivesItems_iff_forall₂.mpr items,
    derivesFields_iff_forall₂.mpr fields⟩

theorem nodeName_sound :
    ((Rule.quoted .string).map Text.plain).Sound (DerivesName .node) :=
  Rule.token_sound.map fun _ _ derived => DerivesToken.map derived Text.plain

theorem items_sound {opening closing : Token.Kind} {item : Rule Value}
    {make : List Value → Value} (sound : item.Sound Derives)
    (implied : ∀ ⦃tokens pieces items⦄, Enclosed opening closing pieces tokens →
      DerivesItems pieces items → Derives tokens (make items)) :
    ((Rule.delimitedList opening closing item).map make).Sound Derives := by
  apply sound.delimitedList.map
  intro tokens items derived
  obtain ⟨pieces, enclosed, all⟩ := derived
  exact implied enclosed (derivesItems_iff_forall₂.mpr all)

theorem otherRules_sound {item : Rule Value} (sound : item.Sound Derives) :
    ∀ rule ∈ otherRules item, rule.Sound Derives := by
  have node := constrRule_sound nodeName_sound sound
  have quoted : ((Rule.quoted .string).map string).Sound Derives :=
    Rule.token_sound.map fun _ _ derived => derived
  have map : ((Rule.delimitedList .openParen .closeParen item.entry).map
      map).Sound Derives := by
    apply sound.entry.delimitedList.map
    intro tokens entries derived
    obtain ⟨pieces, enclosed, all⟩ := derived
    exact ⟨pieces, enclosed, derivesEntries_iff_forall₂.mpr all⟩
  have set : ((Rule.delimitedList .openBrace .closeBrace item).map
      set).Sound Derives :=
    items_sound sound fun _ pieces _ enclosed items => ⟨pieces, enclosed, items⟩
  have list : ((Rule.delimitedList .openBracket .closeBracket item).map
      list).Sound Derives :=
    items_sound sound fun _ pieces _ enclosed items => ⟨pieces, enclosed, items⟩
  have tuple : ((Rule.delimitedList .openAngle .closeAngle item).map
      tuple).Sound Derives :=
    items_sound sound fun _ pieces _ enclosed items => ⟨pieces, enclosed, items⟩
  have number : (Rule.number.map number).Sound Derives :=
    Rule.token_sound.map fun _ _ derived => derived
  have boolean : (Rule.boolean.map boolean).Sound Derives :=
    Rule.boolean_sound.map fun _ _ derived => derived
  have location : (Rule.location.map location).Sound Derives :=
    Rule.location_sound.map fun _ _ derived => derived
  simp only [otherRules, List.forall_mem_cons]
  exact ⟨node, quoted, map, set, list, tuple, number, boolean, location,
    List.forall_mem_nil _⟩

theorem rule_sound (depth : Nat) : (rule depth).Sound Derives := by
  induction depth with
  | zero =>
      intro cursor next value reads
      obtain ⟨passed, result⟩ := reads
      simp [rule, Outcome.refuse] at result
  | succ depth sound =>
      apply Rule.Sound.firstOf
      rw [List.forall_mem_cons]
      exact ⟨constrRule_sound Rule.token_sound sound, otherRules_sound sound⟩

/-- The kinds of token that the other ways to read a value start with. -/
def otherKinds : List (List Token.Kind) :=
  [[.string], [.string], [.openParen], [.openBrace], [.openBracket],
  [.openAngle], [.number], [.trueWord, .falseWord], [.location]]

theorem otherRules_startWith (item : Rule Value) :
    List.Forall₂ Rule.StartsWith (otherRules item) otherKinds := by
  have string := Rule.token_startsWith .string
  have number := Rule.token_startsWith .number
  have between {α : Type} {opening closing : Token.Kind} {rule : Rule α}
      {change : α → Value} :
      ((rule.between opening closing).map change).StartsWith [opening] :=
    (Rule.between_startsWith rule).map change
  exact .cons (((string.map _).map _).andThen _ |>.map _) <|
    .cons ((string.map _).map _) <| .cons between <| .cons between <|
    .cons between <| .cons between <| .cons ((number.map _).map _) <|
    .cons (Rule.boolean_startsWith.map _) <|
    .cons (Rule.location_startsWith.map _) .nil

theorem constrRule_refuses {item : Rule Value}
    (differs : cursor.nextKind? ≠ some .identifier) :
    (constrRule .identifier Rule.identifier item).Refuses cursor :=
  (Rule.token_refuses differs).map.andThen.map

/-- No value starts with a token of another kind. -/
theorem rule_refuses {depth : Nat} {kind : Token.Kind}
    (here : cursor.nextKind? = some kind)
    (absent : kind ∉ Token.Kind.identifier :: otherKinds.flatten) :
    (rule depth).Refuses cursor := by
  have differ := Cursor.nextKind?_ne_of_not_mem here absent
  obtain ⟨notIdentifier, notOther⟩ := List.forall_mem_cons.mp differ
  cases depth with
  | zero => exact ⟨_, rfl⟩
  | succ depth =>
      apply Rule.Refuses.firstOf
      · exact constrRule_refuses notIdentifier
      · exact Rule.refuse_of_startWith (otherRules_startWith _) notOther

/-- The grammar for values of at most so many tokens. -/
def DerivesWithin (bound : Nat) (tokens : List Token) (value : Value) : Prop :=
  tokens.length ≤ bound ∧ Derives tokens value

/-- Behind an identifier a value goes on with a parenthesis. -/
theorem Derives.parenthesis {first second : Token} {rest : List Token}
    (derived : Derives tokens value) {others : List Token}
    (split : tokens ++ others = first :: second :: rest)
    (identifier : first.kind = .identifier) : second.kind = .openParen := by
  cases value with
  | map | list | set | tuple =>
      obtain ⟨_, ⟨opening, _, _, rfl, kind, _⟩, _⟩ := derived
      obtain rfl : opening = first := (List.cons.inj split).1
      simp [kind] at identifier
  | constr kind =>
      obtain ⟨head, _, _, _, rfl, named, ⟨opening, _, _, rfl, opens, _⟩, _⟩ :=
        derived
      cases kind with
      | identifier =>
          obtain ⟨token, rfl, _⟩ := named
          obtain rfl : opening = second :=
            (List.cons.inj (List.cons.inj split).2).1
          exact opens
      | node =>
          obtain ⟨token, rfl, kind, _⟩ := named
          obtain rfl : token = first := (List.cons.inj split).1
          simp [kind] at identifier
  | string | number =>
      obtain ⟨token, rfl, kind, _⟩ := derived
      obtain rfl : token = first := (List.cons.inj split).1
      simp [kind] at identifier
  | boolean truth =>
      obtain ⟨token, rfl, kind⟩ := derived
      obtain rfl : token = first := (List.cons.inj split).1
      cases truth <;> simp [kind] at identifier
  | location =>
      obtain ⟨token, rest, rfl, kind, _⟩ := derived
      obtain rfl : token = first := (List.cons.inj split).1
      simp [kind] at identifier

theorem isIdentifier_sound : Rule.identifier.Sound fun tokens _ =>
    ∃ token, tokens = [token] ∧ token.kind = .identifier := by
  intro cursor next name reads
  obtain ⟨tokens, passes, token, same, kind, _⟩ := Rule.token_sound reads
  exact ⟨tokens, passes, token, same, kind⟩

/-- Arguments are read when items are, if neither a parenthesis nor an equals
sign follows. -/
theorem argument_complete {item : Rule Value} {bound : Nat}
    (complete : item.Complete (DerivesWithin bound) (· = .openParen)) :
    ((Rule.namedArgument Rule.identifier item).orElse
      (Rule.itemArgument item fun _ => none)).Complete
        (DerivesArgument DerivesIdentifier (DerivesWithin bound))
        fun kind => kind = .openParen ∨ kind = .equals := by
  intro cursor next tokens argument derived passes fits
  have fitsItem : ∀ kind ∈ next.nextKind?, ¬kind = .openParen :=
    fun kind member opens => fits kind member (.inl opens)
  cases argument with
  | positional value =>
      have alone : next.nextKind? ≠ some .equals :=
        fun equals => fits .equals equals (.inr rfl)
      apply Rule.Reads.orElse_second
      · intro other stop read
        obtain ⟨name, equals, rest, ahead, kind, isEquals⟩ :=
          isIdentifier_sound.namedArgument_ahead read
        have opens := derived.2.parenthesis (passes.ahead.symm.trans ahead) kind
        simp [isEquals] at opens
      · exact complete.positional derived passes fitsItem alone
  | named name value =>
      apply Rule.Reads.orElse_first
      have read := (Rule.token_complete.separated complete id) derived passes
        fitsItem
      exact Rule.reads_map_iff.mpr ⟨(name, value), read, rfl⟩

theorem arguments_complete {depth : Nat}
    (complete : (rule depth).Complete (DerivesWithin depth) (· = .openParen)) :
    (Rule.arguments Rule.identifier (rule depth) fun _ => none).Complete
      (DerivesArguments DerivesIdentifier (DerivesWithin depth))
      fun _ => False := by
  apply (argument_complete complete).arguments
  · intro tokens argument derived
    exact derived.nonempty fun _ _ found => found.2.nonempty
  · simp
  · simp
  · intro cursor closing
    have noName : Rule.identifier.Refuses cursor :=
      (Rule.token_refuses (by simp [closing])).map
    exact noName.argument (rule_refuses closing (by decide))

section

variable {bound : Nat} {pieces : List (List Token)}
  (short : ∀ piece ∈ pieces, piece.length ≤ bound)

include short

theorem DerivesItems.within {items : List Value}
    (derived : DerivesItems pieces items) :
    List.Forall₂ (DerivesWithin bound) pieces items :=
  forall₂_within short (derivesItems_iff_forall₂.mp derived)

theorem DerivesEntries.within {entries : List (Value × Value)}
    (derived : DerivesEntries pieces entries) :
    List.Forall₂ (DerivesEntry (DerivesWithin bound)) pieces entries :=
  (forall₂_within short (derivesEntries_iff_forall₂.mp derived)).imp
    fun _ _ => DerivesEntry.within

theorem DerivesFields.within {fields : List (String × Value)}
    (derived : DerivesFields pieces fields) :
    List.Forall₂ (DerivesField DerivesIdentifier (DerivesWithin bound)) pieces
      fields :=
  (forall₂_within short (derivesFields_iff_forall₂.mp derived)).imp
    fun _ _ => DerivesField.within

end

theorem constrRule_complete {depth : Nat} {kind : ConstructorKind}
    {name : Rule String}
    (completeName : name.Complete (DerivesName kind) fun _ => False)
    (complete : (rule depth).Complete (DerivesWithin depth) (· = .openParen))
    {given : String} {positional : List Value} {named : List (String × Value)}
    (short : tokens.length ≤ depth + 1)
    (derived : Derives tokens (constr kind given positional named))
    (passes : cursor.Passes tokens next) :
    (constrRule kind name (rule depth)).Reads cursor
      (constr kind given positional named) next := by
  obtain ⟨head, arguments, pieces, fieldPieces, rfl, derivedName, enclosed,
    items, fields⟩ := derived
  obtain ⟨middle, passesHead, passesArguments⟩ :=
    Cursor.passes_append_iff.mp passes
  have shortArguments : arguments.length ≤ depth + 1 := by
    rw [List.length_append] at short
    omega
  have shortPieces := enclosed.forall_length_le shortArguments
  obtain ⟨shortItems, shortFields⟩ := List.forall_mem_append.mp shortPieces
  have readArguments : (Rule.arguments Rule.identifier (rule depth)
      fun _ => none).Reads middle (positional, named) next :=
    arguments_complete complete
      ⟨pieces, fieldPieces, enclosed, items.within shortItems,
        fields.within shortFields⟩
      passesArguments fun _ _ => id
  have readName := completeName derivedName passesHead fun _ _ => id
  apply Rule.reads_map_iff.mpr
  exact ⟨(given, positional, named),
    Rule.reads_andThen_iff.mpr ⟨middle, readName, readArguments⟩, rfl⟩

theorem nodeName_complete :
    ((Rule.quoted .string).map Text.plain).Complete (DerivesName .node)
      fun _ => False := by
  intro cursor next tokens name derived passes _
  obtain ⟨token, rfl, kind, rfl⟩ := derived
  apply Rule.reads_map_iff.mpr
  exact ⟨Text.decode token.body,
    Rule.token_complete ⟨token, rfl, kind, rfl⟩ passes fun _ _ => id, rfl⟩

/-- Another way to read a value is chosen by the kind of the first token. -/
theorem other_complete {depth : Nat} {kind : Token.Kind} {branch : Rule Value}
    (index : Nat) (chosen : (otherRules (rule depth))[index]? = some branch)
    (here : cursor.nextKind? = some kind)
    (absent : kind ∉ Token.Kind.identifier :: (otherKinds.take index).flatten)
    (reads : branch.Reads cursor value next) :
    (rule (depth + 1)).Reads cursor value next := by
  have differ := Cursor.nextKind?_ne_of_not_mem here absent
  obtain ⟨notIdentifier, notOther⟩ := List.forall_mem_cons.mp differ
  exact Rule.Reads.firstOf_index (otherRules_startWith _) index chosen
    (constrRule_refuses notIdentifier) notOther reads

/-- A quoted text is read as a string where no parenthesis follows. -/
theorem string_complete {depth : Nat} {text : Text}
    (derived : Derives tokens (string text))
    (passes : cursor.Passes tokens next)
    (fits : next.nextKind? ≠ some .openParen) :
    (rule (depth + 1)).Reads cursor (string text) next := by
  have here := DerivesToken.nextKind?_eq derived passes
  have readText : (Rule.quoted .string).Reads cursor text next :=
    Rule.token_complete derived passes fun _ _ => id
  have noConstr : (constrRule .identifier Rule.identifier
      (rule depth)).Refuses cursor := by
    apply constrRule_refuses
    simp [here]
  have noNode : (constrRule .node ((Rule.quoted .string).map Text.plain)
      (rule depth)).Refuses cursor := by
    have readName : ((Rule.quoted .string).map Text.plain).Reads cursor
        text.plain next := Rule.reads_map_iff.mpr ⟨text, readText, rfl⟩
    exact (readName.andThen_refuses (Rule.between_refuses fits).inspect).map
  apply Rule.Reads.firstOf_other [_] _ noConstr
  · exact List.forall_mem_singleton.mpr noNode
  · exact Rule.reads_map_iff.mpr ⟨text, readText, rfl⟩

/-- A delimited list of values is read when its items are. -/
theorem items_complete {depth : Nat} {opening closing : Token.Kind}
    {make : List Value → Value} (index : Nat)
    (chosen : (otherRules (rule depth))[index]? =
      some ((Rule.delimitedList opening closing (rule depth)).map make))
    (absent :
      opening ∉ Token.Kind.identifier :: (otherKinds.take index).flatten)
    (notComma : closing ≠ .comma)
    (noStart : closing ∉ Token.Kind.identifier :: otherKinds.flatten)
    (complete : (rule depth).Complete (DerivesWithin depth) (· = .openParen))
    {pieces : List (List Token)} {items : List Value}
    (enclosed : Enclosed opening closing pieces tokens)
    (short : tokens.length ≤ depth + 1) (derived : DerivesItems pieces items)
    (passes : cursor.Passes tokens next) :
    (rule (depth + 1)).Reads cursor (make items) next := by
  have shortPieces := enclosed.forall_length_le short
  have notParen : ¬closing = .openParen := by
    intro opens
    subst opens
    simp [otherKinds] at noStart
  have read : (Rule.delimitedList opening closing (rule depth)).Reads cursor
      items next :=
    complete.delimitedList (by simp) notParen notComma
      (fun cursor here => rule_refuses here noStart)
      ⟨pieces, enclosed, derived.within shortPieces⟩ passes fun _ _ => id
  apply other_complete index chosen (enclosed.nextKind?_eq passes) absent
  exact Rule.reads_map_iff.mpr ⟨items, read, rfl⟩

theorem entries_complete {depth : Nat}
    (complete : (rule depth).Complete (DerivesWithin depth) (· = .openParen))
    {pieces : List (List Token)} {entries : List (Value × Value)}
    (enclosed : Enclosed .openParen .closeParen pieces tokens)
    (short : tokens.length ≤ depth + 1)
    (derived : DerivesEntries pieces entries)
    (passes : cursor.Passes tokens next) :
    (Rule.delimitedList .openParen .closeParen (rule depth).entry).Reads cursor
      entries next := by
  have shortPieces := enclosed.forall_length_le short
  have refuses (cursor : Cursor) (here : cursor.nextKind? = some .closeParen) :
      (Rule.entry (rule depth)).Refuses cursor :=
    (rule_refuses here (by decide)).thenSkip.andThen
  exact (complete.entry (by simp)).delimitedList (by simp) (by simp) (by simp)
    refuses ⟨pieces, enclosed, derived.within shortPieces⟩ passes fun _ _ => id

theorem rule_complete (depth : Nat) :
    (rule depth).Complete (DerivesWithin depth) (· = .openParen) := by
  induction depth with
  | zero =>
      intro cursor next tokens value derived passes fits
      obtain ⟨short, derived⟩ := derived
      exact absurd (List.length_eq_zero_iff.mp (Nat.le_zero.mp short))
        derived.nonempty
  | succ depth complete =>
      intro cursor next tokens value derived passes fits
      obtain ⟨short, derived⟩ := derived
      cases value with
      | constr kind name positional named =>
          cases kind with
          | identifier =>
              apply Rule.Reads.firstOf_first
              exact constrRule_complete Rule.token_complete complete short
                derived passes
          | node =>
              have here : cursor.nextKind? = some .string := by
                obtain ⟨_, _, _, _, rfl, ⟨head, rfl, kind, _⟩, _⟩ := derived
                exact passes.nextKind?_eq.trans (congrArg some kind)
              apply other_complete 0 rfl here (by decide)
              exact constrRule_complete nodeName_complete complete short
                derived passes
      | string text =>
          exact string_complete derived passes fun opens => fits _ opens rfl
      | map entries =>
          obtain ⟨pieces, enclosed, entries⟩ := derived
          have read := entries_complete complete enclosed short entries passes
          apply other_complete 2 rfl (enclosed.nextKind?_eq passes) (by decide)
          exact Rule.reads_map_iff.mpr ⟨_, read, rfl⟩
      | list items =>
          obtain ⟨pieces, enclosed, items⟩ := derived
          exact items_complete 4 rfl (by decide) (by decide) (by decide)
            complete enclosed short items passes
      | set items =>
          obtain ⟨pieces, enclosed, items⟩ := derived
          exact items_complete 3 rfl (by decide) (by decide) (by decide)
            complete enclosed short items passes
      | tuple items =>
          obtain ⟨pieces, enclosed, items⟩ := derived
          exact items_complete 5 rfl (by decide) (by decide) (by decide)
            complete enclosed short items passes
      | number digits =>
          have here := DerivesToken.nextKind?_eq derived passes
          have read : Rule.number.Reads cursor digits next :=
            Rule.token_complete derived passes fun _ _ => id
          apply other_complete 6 rfl here (by decide)
          exact Rule.reads_map_iff.mpr ⟨digits, read, rfl⟩
      | boolean truth =>
          have read : Rule.boolean.Reads cursor truth next :=
            Rule.boolean_complete derived passes fun _ _ => id
          obtain ⟨token, rfl, kind⟩ := derived
          have here := passes.nextKind?_eq.trans (congrArg some kind)
          cases truth with
          | true =>
              apply other_complete 7 rfl here (by decide)
              exact Rule.reads_map_iff.mpr ⟨true, read, rfl⟩
          | false =>
              apply other_complete 7 rfl here (by decide)
              exact Rule.reads_map_iff.mpr ⟨false, read, rfl⟩
      | location place =>
          have here := DerivesLocation.nextKind?_eq derived passes
          have read := Rule.location_complete derived passes fits
          apply other_complete 8 rfl here (by decide)
          exact Rule.reads_map_iff.mpr ⟨place, read, rfl⟩

end

/-- Reading a source gives a value exactly when the tokens of the source derive
it. -/
theorem read_eq_ok_iff {source : String} {value : Value} :
    read source = .ok value ↔ Derives (tokenize source) value :=
  readAll_eq_ok_iff_derives (fun _ => rule_sound _) fun _ => rule_complete _

end Value

end TreeQuery

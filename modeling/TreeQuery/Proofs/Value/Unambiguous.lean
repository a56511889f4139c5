import Mathlib.Algebra.Group.Nat.Defs
import TreeQuery.Proofs.Token.Lexemes
import TreeQuery.Proofs.Value.Derivation

/-!
# Unambiguous values

No tokens have two derivations, and a text is read exactly when its tokens have
one.  What follows a value decides where its tokens end: a string or a location
is taken as far as a parenthesis allows.
-/

namespace TreeQuery

open Reading

namespace Value

/-- No token of these kinds comes first. -/
def Avoids (kinds : List Token.Kind) (tokens : List Token) : Prop :=
  ∀ token ∈ tokens.head?, token.kind ∉ kinds

theorem Avoids.mono {kinds kinds' : List Token.Kind} {tokens : List Token}
    (avoids : Avoids kinds tokens) (fewer : kinds' ⊆ kinds) :
    Avoids kinds' tokens := by
  intro token member listed
  exact avoids token member (fewer listed)

theorem avoids_cons {kinds : List Token.Kind} {token : Token}
    {tokens : List Token} (other : token.kind ∉ kinds) :
    Avoids kinds (token :: tokens) := by
  intro first member
  cases member
  exact other

def closingKinds : List Token.Kind :=
  [.closeParen, .closeBrace, .closeBracket, .closeAngle]

theorem avoids_closing {closing : Token} {tokens : List Token}
    (closes : closing.kind ∈ closingKinds) :
    Avoids [.openParen, .colon] (closing :: tokens) := by
  apply avoids_cons
  intro listed
  revert closes
  rcases List.mem_pair.mp listed with kind | kind
  · simp [kind, closingKinds]
  · simp [kind, closingKinds]

def Derivation.first : Derivation → Token
  | .scalar token => token
  | .location token _ => token
  | .collection opening _ _ => opening
  | .constr name _ _ _ => name

/-- The kinds of token that a production starts with. -/
def Derivation.firstKinds : Derivation → List Token.Kind
  | .scalar _ => [.string, .number, .trueWord, .falseWord]
  | .location _ _ => [.location]
  | .collection _ _ _ => [.openParen, .openBrace, .openBracket, .openAngle]
  | .constr _ _ _ _ => [.identifier, .string]

theorem Derivation.firstKinds_not_closing (derivation : Derivation) :
    ∀ kind ∈ derivation.firstKinds, kind ∉ closingKinds := by
  cases derivation <;> simp [firstKinds, closingKinds]

theorem collection_tokens_append (opening : Token) (items : ItemsDerivation)
    (closing : Token) (rest : List Token) :
    (Derivation.collection opening items closing).tokens ++ rest =
      opening :: (items.tokens ++ closing :: rest) := by
  simp [Derivation.tokens]

theorem constr_tokens_append (head opening : Token)
    (arguments : ItemsDerivation) (closing : Token) (rest : List Token) :
    (Derivation.constr head opening arguments closing).tokens ++ rest =
      head :: opening :: (arguments.tokens ++ closing :: rest) := by
  simp [Derivation.tokens]

theorem more_tokens_append (item : ItemDerivation) (comma : Token)
    (others : ItemsDerivation) (rest : List Token) :
    (ItemsDerivation.more item comma others).tokens ++ rest =
      item.tokens ++ comma :: (others.tokens ++ rest) := by
  simp [ItemsDerivation.tokens]

theorem Derivation.exists_tokens (derivation : Derivation) :
    ∃ others, derivation.tokens = derivation.first :: others := by
  cases derivation <;> exact ⟨_, rfl⟩

section

variable {derivation derivation' : Derivation} {value value' : Value}
  {rest rest' : List Token}

theorem Derivation.Spells.first_kind (spells : derivation.Spells value) :
    derivation.first.kind ∈ derivation.firstKinds := by
  match derivation, value with
  | .scalar token, .string _ | .scalar token, .number _ =>
      simp [first, firstKinds, spells.1]
  | .scalar token, .boolean true | .scalar token, .boolean false =>
      have kind : token.kind = _ := spells
      simp [first, firstKinds, kind]
  | .location token span, .location place =>
      obtain ⟨_, _, same, kind, _⟩ := spells
      obtain ⟨rfl, rfl⟩ := List.cons.inj same
      simp [first, firstKinds, kind]
  | .collection opening _ _, .map _ | .collection opening _ _, .set _
  | .collection opening _ _, .list _ | .collection opening _ _, .tuple _ =>
      simp [first, firstKinds, spells.1]
  | .constr head _ _ _, .constr .identifier _ _ _
  | .constr head _ _ _, .constr .node _ _ _ =>
      obtain ⟨⟨_, same, kind, _⟩, _⟩ := spells
      obtain ⟨rfl, -⟩ := List.cons.inj same
      simp [first, firstKinds, kind]

/-- Derivations of the same tokens start with the same kind. -/
theorem Derivation.Spells.first_kind_of_split
    (spells : derivation.Spells value) (spells' : derivation'.Spells value')
    (split : derivation.tokens ++ rest = derivation'.tokens ++ rest') :
    ∃ kind ∈ derivation.firstKinds, kind ∈ derivation'.firstKinds := by
  obtain ⟨others, tokens⟩ := derivation.exists_tokens
  obtain ⟨others', tokens'⟩ := derivation'.exists_tokens
  rw [tokens, tokens'] at split
  have same : derivation.first = derivation'.first := (List.cons.inj split).1
  refine ⟨derivation.first.kind, spells.first_kind, ?_⟩
  rw [same]
  exact spells'.first_kind

/-- A span has as many tokens whatever its bounds are. -/
theorem length_of_derivesSpan {tokens : List Token} {span : SourceSpan}
    (derived : DerivesSpan tokens span) : tokens.length = 17 := by
  obtain ⟨_, _, _, _, _, left, _, right, _, rfl, -, -, -, -, -,
    ⟨_, _, _, _, _, rfl, -⟩, -, ⟨_, _, _, _, _, rfl, -⟩, -⟩ := derived
  rfl

theorem not_avoids_of_derivesSpan {tokens : List Token} {span : SourceSpan}
    (derived : DerivesSpan tokens span) (avoids : Avoids [.openParen] rest)
    (split : rest = tokens ++ rest') : False := by
  obtain ⟨opening, _, _, _, _, _, _, _, _, rfl, opens, -⟩ := derived
  subst split
  exact avoids opening rfl (by simp [opens])

theorem span_unique {token token' : Token} {span span' : List Token}
    {place place' : Location} (derived : DerivesLocation (token :: span) place)
    (derived' : DerivesLocation (token' :: span') place')
    (split : span ++ rest = span' ++ rest') (ends : Avoids [.openParen] rest)
    (ends' : Avoids [.openParen] rest') : span = span' ∧ rest = rest' := by
  obtain ⟨uri, bounds⟩ := place
  obtain ⟨uri', bounds'⟩ := place'
  obtain ⟨_, _, same, -, -, derivedSpan⟩ := derived
  obtain ⟨_, _, same', -, -, derivedSpan'⟩ := derived'
  obtain ⟨rfl, rfl⟩ := List.cons.inj same
  obtain ⟨rfl, rfl⟩ := List.cons.inj same'
  cases bounds with
  | none =>
      obtain rfl : span = [] := derivedSpan
      cases bounds' with
      | none =>
          obtain rfl : span' = [] := derivedSpan'
          exact ⟨rfl, split⟩
      | some bounds' =>
          exact (not_avoids_of_derivesSpan derivedSpan' ends split).elim
  | some bounds =>
      cases bounds' with
      | none =>
          obtain rfl : span' = [] := derivedSpan'
          exact (not_avoids_of_derivesSpan derivedSpan ends' split.symm).elim
      | some bounds' =>
          apply List.append_inj split
          rw [length_of_derivesSpan derivedSpan,
            length_of_derivesSpan derivedSpan']

theorem Derivation.Spells.collection_items {opening closing : Token}
    {items : ItemsDerivation}
    (spells : (Derivation.collection opening items closing).Spells value) :
    ∃ given, items.Spells given ∧ closing.kind ∈ closingKinds := by
  cases value with
  | map | set | list | tuple =>
      obtain ⟨-, closes, spellsItems⟩ := spells
      exact ⟨_, spellsItems, by simp [closes, closingKinds]⟩
  | _ => exact spells.elim

theorem Derivation.Spells.constr_items {head opening closing : Token}
    {arguments : ItemsDerivation}
    (spells : (Derivation.constr head opening arguments closing).Spells value) :
    opening.kind = .openParen ∧
      ∃ given, arguments.Spells given ∧ closing.kind ∈ closingKinds := by
  cases value with
  | constr =>
      obtain ⟨-, opens, closes, spellsItems⟩ := spells
      exact ⟨opens, _, spellsItems, by simp [closes, closingKinds]⟩
  | _ => exact spells.elim

/-- A field is not taken for a value: behind its name stands no parenthesis. -/
theorem Derivation.Spells.ne_field {head equals : Token} {name : String}
    (spells : derivation.Spells value) (names : DerivesIdentifier [head] name)
    (kind : equals.kind = .equals)
    (split : derivation.tokens ++ rest = head :: equals :: rest') : False := by
  obtain ⟨_, same, identifier, -⟩ := names
  obtain ⟨rfl, -⟩ := List.cons.inj same
  have opens := spells.derives.parenthesis split identifier
  simp [kind] at opens

/-- An item does not start with a closing delimiter. -/
theorem ItemDerivation.Spells.ne_closing {derivation : ItemDerivation}
    {item : Item} (spells : derivation.Spells item) {closing : Token}
    (closes : closing.kind ∈ closingKinds)
    (split : derivation.tokens ++ rest = closing :: rest') : False := by
  have ne {derivation : Derivation} {value : Value} {rest : List Token}
      (spells : derivation.Spells value)
      (split : derivation.tokens ++ rest = closing :: rest') : False := by
    obtain ⟨others, tokens⟩ := derivation.exists_tokens
    rw [tokens] at split
    have same : derivation.first = closing := (List.cons.inj split).1
    apply derivation.firstKinds_not_closing _ spells.first_kind
    rwa [same]
  match derivation, item with
  | .value _, .value _ => exact ne spells split
  | .entry _ _ _, .entry _ _ =>
      exact ne spells.1 ((List.append_assoc _ _ _).symm.trans split)
  | .field _ _ _, .field _ _ =>
      obtain ⟨⟨_, same, kind, _⟩, _⟩ := spells
      obtain ⟨rfl, -⟩ := List.cons.inj same
      obtain ⟨rfl, -⟩ := List.cons.inj split
      simp [kind, closingKinds] at closes

end

mutual

/-- Where no parenthesis follows, tokens start with one derivation only. -/
theorem Derivation.Spells.unique {derivation derivation' : Derivation}
    {value value' : Value} {rest rest' : List Token}
    (spells : derivation.Spells value) (spells' : derivation'.Spells value')
    (split : derivation.tokens ++ rest = derivation'.tokens ++ rest')
    (ends : Avoids [.openParen] rest) (ends' : Avoids [.openParen] rest') :
    derivation = derivation' ∧ rest = rest' := by
  have overlap := spells.first_kind_of_split spells' split
  match derivation, derivation' with
  | .scalar token, .scalar token' =>
      obtain ⟨rfl, rfl⟩ := List.cons.inj split
      exact ⟨rfl, rfl⟩
  | .location token span, .location token' span' =>
      obtain ⟨rfl, splitSpan⟩ := List.cons.inj split
      match value, value' with
      | .location place, .location place' =>
          obtain ⟨rfl, rfl⟩ := span_unique spells spells' splitSpan ends ends'
          exact ⟨rfl, rfl⟩
  | .collection opening items closing, .collection opening' items' closing' =>
      rw [collection_tokens_append, collection_tokens_append] at split
      obtain ⟨rfl, splitItems⟩ := List.cons.inj split
      obtain ⟨_, spellsItems, closes⟩ := spells.collection_items
      obtain ⟨_, spellsItems', closes'⟩ := spells'.collection_items
      obtain ⟨rfl, rfl, rfl⟩ := ItemsDerivation.Spells.unique spellsItems
        spellsItems' splitItems closes closes'
      exact ⟨rfl, rfl⟩
  | .constr head opening arguments closing,
      .constr head' opening' arguments' closing' =>
      rw [constr_tokens_append, constr_tokens_append] at split
      obtain ⟨rfl, splitArguments⟩ := List.cons.inj split
      obtain ⟨rfl, splitItems⟩ := List.cons.inj splitArguments
      obtain ⟨-, _, spellsItems, closes⟩ := spells.constr_items
      obtain ⟨-, _, spellsItems', closes'⟩ := spells'.constr_items
      obtain ⟨rfl, rfl, rfl⟩ := ItemsDerivation.Spells.unique spellsItems
        spellsItems' splitItems closes closes'
      exact ⟨rfl, rfl⟩
  | .scalar token, .constr head opening _ _ =>
      obtain ⟨rfl, rfl⟩ := List.cons.inj split
      exact (ends opening rfl (by simp [spells'.constr_items.1])).elim
  | .constr head opening _ _, .scalar token =>
      obtain ⟨rfl, rfl⟩ := List.cons.inj split
      exact (ends' opening rfl (by simp [spells.constr_items.1])).elim
  | .scalar _, .location _ _ | .scalar _, .collection _ _ _
  | .location _ _, .scalar _ | .location _ _, .collection _ _ _
  | .location _ _, .constr _ _ _ _ | .collection _ _ _, .scalar _
  | .collection _ _ _, .location _ _ | .collection _ _ _, .constr _ _ _ _
  | .constr _ _ _ _, .location _ _ | .constr _ _ _ _, .collection _ _ _ =>
      simp [Derivation.firstKinds] at overlap
termination_by structural derivation

theorem ItemDerivation.Spells.unique {derivation derivation' : ItemDerivation}
    {item item' : Item} {rest rest' : List Token}
    (spells : derivation.Spells item) (spells' : derivation'.Spells item')
    (split : derivation.tokens ++ rest = derivation'.tokens ++ rest')
    (ends : Avoids [.openParen, .colon] rest)
    (ends' : Avoids [.openParen, .colon] rest') :
    derivation = derivation' ∧ rest = rest' := by
  match derivation, derivation', item, item' with
  | .value value, .value value', .value _, .value _ =>
      obtain ⟨rfl, rfl⟩ := Derivation.Spells.unique spells spells' split
        (ends.mono (by simp)) (ends'.mono (by simp))
      exact ⟨rfl, rfl⟩
  | .value value, .entry key' colon' value', .value _, .entry _ _ =>
      obtain ⟨spellsKey', kind', -⟩ := spells'
      obtain ⟨rfl, rfl⟩ := Derivation.Spells.unique spells spellsKey'
        (split.trans (List.append_assoc _ _ _)) (ends.mono (by simp))
        (avoids_cons (by simp [kind']))
      exact (ends colon' rfl (by simp [kind'])).elim
  | .entry key colon value, .value value', .entry _ _, .value _ =>
      obtain ⟨spellsKey, kind, -⟩ := spells
      obtain ⟨rfl, rfl⟩ := Derivation.Spells.unique spellsKey spells'
        ((List.append_assoc _ _ _).symm.trans split)
        (avoids_cons (by simp [kind])) (ends'.mono (by simp))
      exact (ends' colon rfl (by simp [kind])).elim
  | .entry key colon value, .entry key' colon' value', .entry _ _,
      .entry _ _ =>
      obtain ⟨spellsKey, kind, spellsValue⟩ := spells
      obtain ⟨spellsKey', kind', spellsValue'⟩ := spells'
      rw [ItemDerivation.tokens, ItemDerivation.tokens, List.append_assoc,
        List.append_assoc] at split
      obtain ⟨rfl, splitBehind⟩ := Derivation.Spells.unique spellsKey
        spellsKey' split (avoids_cons (by simp [kind]))
        (avoids_cons (by simp [kind']))
      obtain ⟨rfl, splitValue⟩ := List.cons.inj splitBehind
      obtain ⟨rfl, rfl⟩ := Derivation.Spells.unique spellsValue spellsValue'
        splitValue (ends.mono (by simp)) (ends'.mono (by simp))
      exact ⟨rfl, rfl⟩
  | .field head equals value, .field head' equals' value', .field _ _,
      .field _ _ =>
      obtain ⟨rfl, splitBehind⟩ := List.cons.inj split
      obtain ⟨rfl, splitValue⟩ := List.cons.inj splitBehind
      obtain ⟨rfl, rfl⟩ := Derivation.Spells.unique spells.2.2 spells'.2.2
        splitValue (ends.mono (by simp)) (ends'.mono (by simp))
      exact ⟨rfl, rfl⟩
  | .value value, .field head' equals' _, .value _, .field _ _ =>
      exact (spells.ne_field spells'.1 spells'.2.1 split).elim
  | .field head equals _, .value value', .field _ _, .value _ =>
      exact (spells'.ne_field spells.1 spells.2.1 split.symm).elim
  | .entry key colon value, .field head' equals' _, .entry _ _, .field _ _ =>
      exact (spells.1.ne_field spells'.1 spells'.2.1
        ((List.append_assoc _ _ _).symm.trans split)).elim
  | .field head equals _, .entry key' colon' value', .field _ _, .entry _ _ =>
      exact (spells'.1.ne_field spells.1 spells.2.1
        ((List.append_assoc _ _ _).symm.trans split.symm)).elim
termination_by structural derivation

theorem ItemsDerivation.Spells.unique {derivation derivation' : ItemsDerivation}
    {items items' : List Item} {closing closing' : Token}
    {rest rest' : List Token}
    (spells : derivation.Spells items) (spells' : derivation'.Spells items')
    (split : derivation.tokens ++ closing :: rest =
      derivation'.tokens ++ closing' :: rest')
    (closes : closing.kind ∈ closingKinds)
    (closes' : closing'.kind ∈ closingKinds) :
    derivation = derivation' ∧ closing = closing' ∧ rest = rest' := by
  match derivation, derivation', items, items' with
  | .empty, .empty, [], [] =>
      obtain ⟨rfl, rfl⟩ := List.cons.inj split
      exact ⟨rfl, rfl, rfl⟩
  | .last item, .last item', [_], [_] =>
      obtain ⟨rfl, same⟩ := ItemDerivation.Spells.unique spells spells' split
        (avoids_closing closes) (avoids_closing closes')
      obtain ⟨rfl, rfl⟩ := List.cons.inj same
      exact ⟨rfl, rfl, rfl⟩
  | .more item comma others, .more item' comma' others', _ :: _, _ :: _ =>
      obtain ⟨spellsItem, kind, spellsOthers⟩ := spells
      obtain ⟨spellsItem', kind', spellsOthers'⟩ := spells'
      rw [more_tokens_append, more_tokens_append] at split
      obtain ⟨rfl, splitBehind⟩ := ItemDerivation.Spells.unique spellsItem
        spellsItem' split (avoids_cons (by simp [kind]))
        (avoids_cons (by simp [kind']))
      obtain ⟨rfl, splitOthers⟩ := List.cons.inj splitBehind
      obtain ⟨rfl, rfl, rfl⟩ := ItemsDerivation.Spells.unique spellsOthers
        spellsOthers' splitOthers closes closes'
      exact ⟨rfl, rfl, rfl⟩
  | .last item, .more item' comma' others', [_], _ :: _ =>
      obtain ⟨spellsItem', kind', -⟩ := spells'
      rw [more_tokens_append] at split
      obtain ⟨-, same⟩ := ItemDerivation.Spells.unique spells spellsItem' split
        (avoids_closing closes) (avoids_cons (by simp [kind']))
      obtain ⟨rfl, -⟩ := List.cons.inj same
      simp [kind', closingKinds] at closes
  | .more item comma others, .last item', _ :: _, [_] =>
      obtain ⟨spellsItem, kind, -⟩ := spells
      rw [more_tokens_append] at split
      obtain ⟨-, same⟩ := ItemDerivation.Spells.unique spellsItem spells' split
        (avoids_cons (by simp [kind])) (avoids_closing closes')
      obtain ⟨rfl, -⟩ := List.cons.inj same
      simp [kind, closingKinds] at closes'
  | .empty, .last item', [], [_] =>
      exact (spells'.ne_closing closes split.symm).elim
  | .empty, .more item' comma' others', [], _ :: _ =>
      rw [more_tokens_append] at split
      exact (spells'.1.ne_closing closes split.symm).elim
  | .last item, .empty, [_], [] =>
      exact (spells.ne_closing closes' split).elim
  | .more item comma others, .empty, _ :: _, [] =>
      rw [more_tokens_append] at split
      exact (spells.1.ne_closing closes' split).elim
termination_by structural derivation

end

/-! ## Kinds of token -/

/-- The kinds that the lexer gives to tokens of values. -/
def IsValueKind (kind : Token.Kind) : Prop :=
  kind.isPatternOnly = false ∧ kind ≠ .invalid

instance (kind : Token.Kind) : Decidable (IsValueKind kind) :=
  inferInstanceAs (Decidable (_ ∧ _))

/-- All tokens are of kinds that occur in values. -/
abbrev AreOfValues (tokens : List Token) : Prop :=
  ∀ token ∈ tokens, IsValueKind token.kind

theorem areOfValues_lineColumn {tokens : List Token} {place : Nat × Nat}
    (derived : DerivesLineColumn tokens place) : AreOfValues tokens := by
  obtain ⟨_, _, _, _, _, rfl, opens, ⟨line, -⟩, comma, ⟨column, -⟩, closes⟩ :=
    derived
  simp only [AreOfValues, List.forall_mem_cons, opens, line, comma, column,
    closes]
  decide

theorem areOfValues_span {tokens : List Token} {span : SourceSpan}
    (derived : DerivesSpan tokens span) : AreOfValues tokens := by
  obtain ⟨_, _, _, _, _, left, _, right, _, rfl, opens, ⟨start, -⟩, comma,
    ⟨stop, -⟩, comma', derivedLeft, comma'', derivedRight, closes⟩ := derived
  have ofLeft := areOfValues_lineColumn derivedLeft
  have ofRight := areOfValues_lineColumn derivedRight
  simp only [AreOfValues, List.forall_mem_cons, List.forall_mem_append, opens,
    start, comma, stop, comma', comma'', closes]
  exact ⟨by decide, by decide, by decide, by decide, by decide, ofLeft,
    by decide, ofRight, by decide, List.forall_mem_nil _⟩

theorem areOfValues_location {tokens : List Token} {place : Location}
    (derived : DerivesLocation tokens place) : AreOfValues tokens := by
  obtain ⟨uri, span⟩ := place
  obtain ⟨token, rest, rfl, kind, -, derivedSpan⟩ := derived
  simp only [AreOfValues, List.forall_mem_cons, kind]
  refine ⟨by decide, ?_⟩
  cases span with
  | none =>
      obtain rfl : rest = [] := derivedSpan
      exact List.forall_mem_nil _
  | some span => exact areOfValues_span derivedSpan

theorem closingKinds_ofValues : ∀ kind ∈ closingKinds, IsValueKind kind := by
  decide

theorem Derivation.Spells.isValueKind_first {derivation : Derivation}
    {value : Value} (spells : derivation.Spells value) :
    IsValueKind derivation.first.kind := by
  have all : ∀ kind ∈ derivation.firstKinds, IsValueKind kind := by
    cases derivation <;> simp only [firstKinds] <;> decide
  exact all _ spells.first_kind

mutual

/-- A derivation uses neither tokens of patterns nor invalid ones. -/
theorem Derivation.Spells.areOfValues {derivation : Derivation} {value : Value}
    (spells : derivation.Spells value) : AreOfValues derivation.tokens := by
  have first := spells.isValueKind_first
  match derivation, value with
  | .scalar token, _ => exact List.forall_mem_singleton.mpr first
  | .location token span, .location place =>
      exact areOfValues_location spells
  | .collection opening items closing, _ =>
      obtain ⟨_, spellsItems, closes⟩ := spells.collection_items
      simp only [Derivation.tokens, AreOfValues, List.forall_mem_cons,
        List.forall_mem_append]
      exact ⟨first, ItemsDerivation.Spells.areOfValues spellsItems,
        closingKinds_ofValues _ closes, List.forall_mem_nil _⟩
  | .constr head opening arguments closing, _ =>
      obtain ⟨opens, _, spellsItems, closes⟩ := spells.constr_items
      simp only [Derivation.tokens, AreOfValues, List.forall_mem_cons,
        List.forall_mem_append, opens]
      exact ⟨first, by decide, ItemsDerivation.Spells.areOfValues spellsItems,
        closingKinds_ofValues _ closes, List.forall_mem_nil _⟩
termination_by structural derivation

theorem ItemDerivation.Spells.areOfValues {derivation : ItemDerivation}
    {item : Item} (spells : derivation.Spells item) :
    AreOfValues derivation.tokens := by
  match derivation, item with
  | .value content, .value _ => exact Derivation.Spells.areOfValues spells
  | .entry left colon right, .entry _ _ =>
      obtain ⟨spellsKey, kind, spellsValue⟩ := spells
      simp only [ItemDerivation.tokens, AreOfValues, List.forall_mem_append,
        List.forall_mem_cons, kind]
      exact ⟨Derivation.Spells.areOfValues spellsKey, by decide,
        Derivation.Spells.areOfValues spellsValue⟩
  | .field head equals content, .field _ _ =>
      obtain ⟨⟨_, same, identifier, -⟩, kind, spellsValue⟩ := spells
      obtain ⟨rfl, -⟩ := List.cons.inj same
      simp only [ItemDerivation.tokens, AreOfValues, List.forall_mem_cons,
        identifier, kind]
      exact ⟨by decide, by decide, Derivation.Spells.areOfValues spellsValue⟩
termination_by structural derivation

theorem ItemsDerivation.Spells.areOfValues {derivation : ItemsDerivation}
    {items : List Item} (spells : derivation.Spells items) :
    AreOfValues derivation.tokens := by
  match derivation, items with
  | .empty, [] => exact List.forall_mem_nil _
  | .last item, [_] => exact ItemDerivation.Spells.areOfValues spells
  | .more item comma rest, _ :: _ =>
      obtain ⟨spellsItem, kind, spellsRest⟩ := spells
      simp only [ItemsDerivation.tokens, AreOfValues, List.forall_mem_append,
        List.forall_mem_cons, kind]
      exact ⟨ItemDerivation.Spells.areOfValues spellsItem, by decide,
        ItemsDerivation.Spells.areOfValues spellsRest⟩
termination_by structural derivation

end

theorem Derives.areOfValues {tokens : List Token} {value : Value}
    (derived : Derives tokens value) : AreOfValues tokens := by
  obtain ⟨derivation, rfl, spells⟩ := derived.exists_derivation
  exact spells.areOfValues

/-- Tokens derive one value at most, since the rule for values reads it. -/
theorem Derives.unique {tokens : List Token} {value value' : Value}
    (derived : Derives tokens value) (derived' : Derives tokens value') :
    value = value' := by
  let cursor : Cursor := ⟨tokens, 0, 0⟩
  let next : Cursor := ⟨[], tokens.length, 0⟩
  have passes : cursor.Passes tokens next :=
    ⟨(List.append_nil _).symm, (Nat.zero_add _).symm, rfl⟩
  have ends : ∀ kind ∈ next.nextKind?, ¬kind = .openParen := by
    simp [next, Cursor.nextKind?]
  obtain ⟨_, result⟩ := rule_complete _ ⟨Nat.le_refl _, derived⟩ passes ends
  obtain ⟨_, result'⟩ := rule_complete _ ⟨Nat.le_refl _, derived'⟩ passes ends
  rw [result] at result'
  simp only [Outcome.mk.injEq, Except.ok.injEq, Progress.mk.injEq] at result'
  exact result'.2.1

/-- What spells an integer of a span: digits only, and a number below 2 ^ 64. -/
theorem derivesInteger_iff {token : Token} {value : Nat} :
    DerivesInteger token value ↔
      token.kind = .number ∧ Token.IsDigits token.lexeme ∧
        Nat.ofDigitChars 10 token.lexeme 0 = value ∧ value < 2 ^ 64 := by
  have size : UInt64.size = 2 ^ 64 := rfl
  simp only [DerivesInteger, Numeral.word?, Numeral.decimal?, Token.IsDigits,
    List.all_eq_true, Option.filter_eq_some_iff, size, decide_eq_true_eq]
  constructor
  · intro spelled
    obtain ⟨kind, digits, bounded⟩ := spelled
    split at digits
    · next only => exact ⟨kind, only, Option.some.inj digits, bounded⟩
    · cases digits
  · intro spelled
    obtain ⟨kind, only, number, bounded⟩ := spelled
    refine ⟨kind, ?_, bounded⟩
    rw [if_pos only, number]

/-- Reading a text gives a value exactly when no token of it is invalid and its
tokens have a derivation that spells the value.  Whatever the tokens, they have
one derivation at most. -/
theorem read_eq_ok_iff_derivation :
    (∀ source value, read source = .ok value ↔
      (∀ token ∈ tokenize source, token.kind ≠ .invalid) ∧
        ∃ derivation : Derivation, derivation.tokens = tokenize source ∧
          derivation.Spells value) ∧
    (∀ (derivation derivation' : Derivation) (value value' : Value),
      derivation.Spells value → derivation'.Spells value' →
      derivation.tokens = derivation'.tokens →
        derivation = derivation' ∧ value = value') ∧
    ∀ token value, DerivesInteger token value ↔
      token.kind = .number ∧ Token.IsDigits token.lexeme ∧
        Nat.ofDigitChars 10 token.lexeme 0 = value ∧ value < 2 ^ 64 := by
  refine ⟨?_, ?_, fun _ _ => derivesInteger_iff⟩
  · intro source value
    rw [read_eq_ok_iff]
    constructor
    · intro derived
      refine ⟨?_, derived.exists_derivation⟩
      intro token member
      exact (derived.areOfValues token member).2
    · intro both
      obtain ⟨-, derivation, same, spells⟩ := both
      rw [← same]
      exact spells.derives
  · intro derivation derivation' value value' spells spells' same
    have ends : Avoids [.openParen] [] := by
      intro token member
      cases member
    obtain ⟨rfl, -⟩ := spells.unique spells' (congrArg (· ++ []) same) ends ends
    exact ⟨rfl, spells.derives.unique spells'.derives⟩

theorem read_eq_ok_iff_derivation_trailing :
    let source := "\"a\"(1, |u|(0,12,<1,0>,<1,12>), k=[true, (),],)"
    let span : SourceSpan := ⟨0, 12, 1, 0, 1, 12⟩
    let value := Value.constr .node "a"
      [.number "1", .location ⟨"u", some span⟩]
      [("k", .list [.boolean true, .map []])]
    read source = .ok value ∧
      ∃! derivation : Derivation, derivation.tokens = tokenize source ∧
        derivation.Spells value := by
  intro source span value
  have result : read source = .ok value := by
    decide +kernel
  have one : ∃! derivation : Derivation,
      derivation.tokens = tokenize source ∧ derivation.Spells value := by
    obtain ⟨-, derivation, same, spells⟩ :=
      (read_eq_ok_iff_derivation.1 source value).mp result
    apply ExistsUnique.intro derivation ⟨same, spells⟩
    intro derivation' both
    obtain ⟨same', spells'⟩ := both
    exact (read_eq_ok_iff_derivation.2.1 derivation' derivation value value
      spells' spells (same'.trans same.symm)).1
  exact ⟨result, one⟩

end Value

end TreeQuery

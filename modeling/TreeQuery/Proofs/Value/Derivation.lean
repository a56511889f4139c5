import TreeQuery.Proofs.Value.Reading

/-!
# Derivations of values

A derivation tells which production of the grammar stands for which tokens.
Tokens derive a value when they are the tokens of a derivation that spells the
value.  No tokens have two derivations.
-/

namespace TreeQuery

open Reading

namespace Value

/-- What stands between two commas. -/
inductive Item where
  | value (value : Value)
  | entry (key value : Value)
  | field (name : String) (value : Value)

mutual

/-- The production that was used for a value, and its tokens. -/
inductive Derivation where
  /-- A string, a number or a truth value. -/
  | scalar (token : Token)
  /-- A location, and the tokens of its span if it has one. -/
  | location (token : Token) (span : List Token)
  /-- A map, a set, a list or a tuple. -/
  | collection (opening : Token) (items : ItemsDerivation) (closing : Token)
  /-- A constructor or a node. -/
  | constr (name opening : Token) (arguments : ItemsDerivation)
      (closing : Token)

inductive ItemDerivation where
  | value (value : Derivation)
  | entry (key : Derivation) (colon : Token) (value : Derivation)
  | field (name equals : Token) (value : Derivation)

/-- Nothing, an item, or an item with a comma and what follows it; so a comma
may end the list if there are items. -/
inductive ItemsDerivation where
  | empty
  | last (item : ItemDerivation)
  | more (item : ItemDerivation) (comma : Token) (rest : ItemsDerivation)

end

mutual

def Derivation.tokens : Derivation → List Token
  | .scalar token => [token]
  | .location token span => token :: span
  | .collection opening items closing => opening :: (items.tokens ++ [closing])
  | .constr name opening arguments closing =>
      name :: opening :: (arguments.tokens ++ [closing])

def ItemDerivation.tokens : ItemDerivation → List Token
  | .value value => value.tokens
  | .entry key colon value => key.tokens ++ colon :: value.tokens
  | .field name equals value => name :: equals :: value.tokens

def ItemsDerivation.tokens : ItemsDerivation → List Token
  | .empty => []
  | .last item => item.tokens
  | .more item comma rest => item.tokens ++ comma :: rest.tokens

end

mutual

/-- The tokens are of the kinds that the productions ask for, and mean the
value. -/
def Derivation.Spells : Derivation → Value → Prop
  | .scalar token, string text =>
      token.kind = .string ∧ Text.decode token.body = text
  | .scalar token, number digits =>
      token.kind = .number ∧ token.written = digits
  | .scalar token, boolean truth =>
      token.kind = if truth then .trueWord else .falseWord
  | .location token span, location place =>
      DerivesLocation (token :: span) place
  | .collection opening items closing, map entries =>
      opening.kind = .openParen ∧ closing.kind = .closeParen ∧
        items.Spells (entries.map fun entry => .entry entry.1 entry.2)
  | .collection opening items closing, set values =>
      opening.kind = .openBrace ∧ closing.kind = .closeBrace ∧
        items.Spells (values.map .value)
  | .collection opening items closing, list values =>
      opening.kind = .openBracket ∧ closing.kind = .closeBracket ∧
        items.Spells (values.map .value)
  | .collection opening items closing, tuple values =>
      opening.kind = .openAngle ∧ closing.kind = .closeAngle ∧
        items.Spells (values.map .value)
  | .constr head opening arguments closing,
      constr kind name positional named =>
      DerivesName kind [head] name ∧ opening.kind = .openParen ∧
        closing.kind = .closeParen ∧
        arguments.Spells (positional.map .value ++
          named.map fun field => .field field.1 field.2)
  | _, _ => False

def ItemDerivation.Spells : ItemDerivation → Item → Prop
  | .value derivation, .value value => derivation.Spells value
  | .entry left colon right, .entry key value =>
      left.Spells key ∧ colon.kind = .colon ∧ right.Spells value
  | .field head equals derivation, .field name value =>
      DerivesIdentifier [head] name ∧ equals.kind = .equals ∧
        derivation.Spells value
  | _, _ => False

def ItemsDerivation.Spells : ItemsDerivation → List Item → Prop
  | .empty, [] => True
  | .last derivation, [item] => derivation.Spells item
  | .more derivation comma rest, item :: items =>
      derivation.Spells item ∧ comma.kind = .comma ∧ rest.Spells items
  | _, _ => False

end

/-! ## Derivations and pieces -/

/-- The tokens of an item. -/
def DerivesItem (tokens : List Token) : Item → Prop
  | .value value => Derives tokens value
  | .entry key value => DerivesEntry Derives tokens (key, value)
  | .field name value => DerivesField DerivesIdentifier Derives tokens
      (name, value)

section

variable {pieces : List (List Token)}

theorem derivesItems_iff_items {values : List Value} :
    DerivesItems pieces values ↔
      List.Forall₂ DerivesItem pieces (values.map .value) := by
  rw [derivesItems_iff_forall₂, List.forall₂_map_right_iff]
  rfl

theorem derivesEntries_iff_items {entries : List (Value × Value)} :
    DerivesEntries pieces entries ↔ List.Forall₂ DerivesItem pieces
      (entries.map fun entry => .entry entry.1 entry.2) := by
  rw [derivesEntries_iff_forall₂, List.forall₂_map_right_iff]
  rfl

theorem derivesFields_iff_items {fields : List (String × Value)} :
    DerivesFields pieces fields ↔ List.Forall₂ DerivesItem pieces
      (fields.map fun field => .field field.1 field.2) := by
  rw [derivesFields_iff_forall₂, List.forall₂_map_right_iff]
  rfl

end

mutual

/-- The tokens of a derivation derive what it spells. -/
theorem Derivation.Spells.derives {derivation : Derivation} {value : Value}
    (spells : derivation.Spells value) : Derives derivation.tokens value := by
  match derivation, value with
  | .scalar token, .string text => exact ⟨token, rfl, spells⟩
  | .scalar token, .number digits => exact ⟨token, rfl, spells⟩
  | .scalar token, .boolean truth => exact ⟨token, rfl, spells⟩
  | .location token span, .location place => exact spells
  | .collection opening items closing, .map entries =>
      obtain ⟨opens, closes, spellsItems⟩ := spells
      obtain ⟨pieces, listed, all⟩ := spellsItems.exists_pieces
      exact ⟨pieces, ⟨opening, _, closing, rfl, opens, closes, listed⟩,
        derivesEntries_iff_items.mpr all⟩
  | .collection opening items closing, .set values
  | .collection opening items closing, .list values
  | .collection opening items closing, .tuple values =>
      obtain ⟨opens, closes, spellsItems⟩ := spells
      obtain ⟨pieces, listed, all⟩ := spellsItems.exists_pieces
      exact ⟨pieces, ⟨opening, _, closing, rfl, opens, closes, listed⟩,
        derivesItems_iff_items.mpr all⟩
  | .constr head opening arguments closing,
      .constr kind name positional named =>
      obtain ⟨names, opens, closes, spellsItems⟩ := spells
      obtain ⟨pieces, listed, all⟩ := spellsItems.exists_pieces
      have left := List.forall₂_take_append _ _ _ all
      have right := List.forall₂_drop_append _ _ _ all
      refine ⟨[head], opening :: (arguments.tokens ++ [closing]), _, _, rfl,
        names, ?_, derivesItems_iff_items.mpr left,
        derivesFields_iff_items.mpr right⟩
      rw [List.take_append_drop]
      exact ⟨opening, _, closing, rfl, opens, closes, listed⟩
termination_by structural derivation

theorem ItemDerivation.Spells.derives {derivation : ItemDerivation}
    {item : Item} (spells : derivation.Spells item) :
    DerivesItem derivation.tokens item := by
  match derivation, item with
  | .value derivation, .value value =>
      exact Derivation.Spells.derives spells
  | .entry left colon right, .entry key value =>
      obtain ⟨spellsKey, kind, spellsValue⟩ := spells
      exact ⟨left.tokens, colon, right.tokens, rfl, kind,
        Derivation.Spells.derives spellsKey,
        Derivation.Spells.derives spellsValue⟩
  | .field head equals derivation, .field name value =>
      obtain ⟨names, kind, spellsValue⟩ := spells
      exact ⟨[head], equals, derivation.tokens, rfl, kind, names,
        Derivation.Spells.derives spellsValue⟩
termination_by structural derivation

theorem ItemsDerivation.Spells.exists_pieces {derivation : ItemsDerivation}
    {items : List Item} (spells : derivation.Spells items) :
    ∃ pieces, Listed pieces derivation.tokens ∧
      List.Forall₂ DerivesItem pieces items := by
  match derivation, items with
  | .empty, [] => exact ⟨[], .empty, .nil⟩
  | .last derivation, [item] =>
      have derived := ItemDerivation.Spells.derives spells
      exact ⟨[derivation.tokens], .last _, .cons derived .nil⟩
  | .more derivation comma rest, item :: items =>
      obtain ⟨spellsFirst, kind, spellsRest⟩ := spells
      have derived := ItemDerivation.Spells.derives spellsFirst
      obtain ⟨pieces, listed, all⟩ :=
        ItemsDerivation.Spells.exists_pieces spellsRest
      cases rest with
      | empty =>
          cases items with
          | nil =>
              exact ⟨[derivation.tokens], .trailing _ kind, .cons derived .nil⟩
          | cons item items => exact spellsRest.elim
      | last | more =>
          cases items with
          | nil => exact spellsRest.elim
          | cons item items =>
              cases all with
              | cons second others =>
                  exact ⟨_, .more derivation.tokens kind listed,
                    .cons derived (.cons second others)⟩
termination_by structural derivation

end

theorem DerivesName.single {kind : ConstructorKind} {tokens : List Token}
    {name : String} (names : DerivesName kind tokens name) :
    ∃ token, tokens = [token] := by
  cases kind with
  | identifier | node =>
      obtain ⟨token, rfl, _⟩ := names
      exact ⟨token, rfl⟩

/-- The tokens have a derivation that spells the item. -/
def HasDerivation (tokens : List Token) (item : Item) : Prop :=
  ∃ derivation : ItemDerivation, derivation.tokens = tokens ∧
    derivation.Spells item

/-- A list of derived pieces has a derivation. -/
theorem exists_itemsDerivation {pieces : List (List Token)}
    {tokens : List Token} (listed : Listed pieces tokens) {items : List Item}
    (all : List.Forall₂ HasDerivation pieces items) :
    ∃ derivation : ItemsDerivation, derivation.tokens = tokens ∧
      derivation.Spells items := by
  induction listed generalizing items with
  | empty =>
      cases all
      exact ⟨.empty, rfl, trivial⟩
  | last piece =>
      obtain ⟨item, _, ⟨derivation, rfl, spells⟩, rest, rfl⟩ :=
        List.forall₂_cons_left_iff.mp all
      cases rest
      exact ⟨.last derivation, rfl, spells⟩
  | @trailing comma piece kind =>
      obtain ⟨item, _, ⟨derivation, rfl, spells⟩, rest, rfl⟩ :=
        List.forall₂_cons_left_iff.mp all
      cases rest
      exact ⟨.more derivation comma .empty, rfl, spells, kind, trivial⟩
  | @more comma following pieces tokens piece kind later induction =>
      obtain ⟨item, _, ⟨derivation, rfl, spells⟩, rest, rfl⟩ :=
        List.forall₂_cons_left_iff.mp all
      obtain ⟨others, rfl, spellsOthers⟩ := induction rest
      exact ⟨.more derivation comma others, rfl, spells, kind, spellsOthers⟩

/-- Derived pieces between two delimiters have a derivation. -/
theorem exists_enclosedDerivation {opening closing : Token.Kind}
    {pieces : List (List Token)} {tokens : List Token}
    (enclosed : Enclosed opening closing pieces tokens) {items : List Item}
    (all : List.Forall₂ HasDerivation pieces items) :
    ∃ (first : Token) (derivation : ItemsDerivation) (last : Token),
      tokens = first :: (derivation.tokens ++ [last]) ∧
        first.kind = opening ∧ last.kind = closing ∧
        derivation.Spells items := by
  obtain ⟨first, inner, last, rfl, opens, closes, listed⟩ := enclosed
  obtain ⟨derivation, rfl, spells⟩ := exists_itemsDerivation listed all
  exact ⟨first, derivation, last, rfl, opens, closes, spells⟩

mutual

/-- Tokens that derive a value have a derivation that spells it. -/
theorem Derives.exists_derivation {tokens : List Token} {value : Value}
    (derived : Derives tokens value) :
    ∃ derivation : Derivation, derivation.tokens = tokens ∧
      derivation.Spells value := by
  match value with
  | .map entries =>
      obtain ⟨pieces, enclosed, all⟩ := derived
      obtain ⟨first, items, last, rfl, opens, closes, spells⟩ :=
        exists_enclosedDerivation enclosed
          (DerivesEntries.exists_derivations all)
      exact ⟨.collection first items last, rfl, opens, closes, spells⟩
  | .set items | .list items | .tuple items =>
      obtain ⟨pieces, enclosed, all⟩ := derived
      obtain ⟨first, items, last, rfl, opens, closes, spells⟩ :=
        exists_enclosedDerivation enclosed (DerivesItems.exists_derivations all)
      exact ⟨.collection first items last, rfl, opens, closes, spells⟩
  | .constr kind name positional named =>
      obtain ⟨head, tokens, pieces, fieldPieces, rfl, names, enclosed, all,
        allFields⟩ := derived
      obtain ⟨first, arguments, last, rfl, opens, closes, spells⟩ :=
        exists_enclosedDerivation enclosed
          (List.rel_append (DerivesItems.exists_derivations all)
            (DerivesFields.exists_derivations allFields))
      obtain ⟨token, rfl⟩ := names.single
      exact ⟨.constr token first arguments last, rfl, names, opens, closes,
        spells⟩
  | .string text | .number digits =>
      obtain ⟨token, rfl, meant⟩ := derived
      exact ⟨.scalar token, rfl, meant⟩
  | .boolean truth =>
      obtain ⟨token, rfl, meant⟩ := derived
      exact ⟨.scalar token, rfl, meant⟩
  | .location place =>
      have located : DerivesLocation tokens place := derived
      obtain ⟨token, rest, rfl, _⟩ := derived
      exact ⟨.location token rest, rfl, located⟩
termination_by structural value

theorem DerivesItems.exists_derivations {pieces : List (List Token)}
    {values : List Value} (derived : DerivesItems pieces values) :
    List.Forall₂ HasDerivation pieces (values.map .value) := by
  match pieces, values with
  | [], [] => exact .nil
  | piece :: pieces, value :: values =>
      obtain ⟨first, others⟩ := derived
      obtain ⟨derivation, same, spells⟩ := Derives.exists_derivation first
      exact .cons ⟨.value derivation, same, spells⟩
        (DerivesItems.exists_derivations others)
  | [], _ :: _ | _ :: _, [] => exact derived.elim
termination_by structural values

theorem DerivesEntries.exists_derivations {pieces : List (List Token)}
    {entries : List (Value × Value)}
    (derived : DerivesEntries pieces entries) :
    List.Forall₂ HasDerivation pieces
      (entries.map fun entry => .entry entry.1 entry.2) := by
  match pieces, entries with
  | [], [] => exact .nil
  | piece :: pieces, (key, value) :: entries =>
      obtain ⟨⟨left, colon, right, rfl, kind, derivedKey, derivedValue⟩,
        others⟩ := derived
      obtain ⟨first, rfl, spellsKey⟩ := Derives.exists_derivation derivedKey
      obtain ⟨second, rfl, spellsValue⟩ :=
        Derives.exists_derivation derivedValue
      exact .cons ⟨.entry first colon second, rfl, spellsKey, kind, spellsValue⟩
        (DerivesEntries.exists_derivations others)
  | [], _ :: _ | _ :: _, [] => exact derived.elim
termination_by structural entries

theorem DerivesFields.exists_derivations {pieces : List (List Token)}
    {fields : List (String × Value)} (derived : DerivesFields pieces fields) :
    List.Forall₂ HasDerivation pieces
      (fields.map fun field => .field field.1 field.2) := by
  match pieces, fields with
  | [], [] => exact .nil
  | piece :: pieces, (name, value) :: fields =>
      obtain ⟨⟨left, equals, right, rfl, kind, names, derivedValue⟩,
        others⟩ := derived
      obtain ⟨derivation, rfl, spells⟩ := Derives.exists_derivation derivedValue
      have isName := names
      obtain ⟨head, rfl, _⟩ := names
      exact .cons ⟨.field head equals derivation, rfl, isName, kind, spells⟩
        (DerivesFields.exists_derivations others)
  | [], _ :: _ | _ :: _, [] => exact derived.elim
termination_by structural fields

end

end Value

end TreeQuery

import TreeQuery.Proofs.Reading.Arguments
import TreeQuery.Proofs.Reading.Chains
import TreeQuery.Proofs.Reading.Scalar

/-!
# Tokens that are spelled alike

Where tokens stand matters neither for how they are cut into the pieces of lists
and chains nor for what they mean.
-/

namespace TreeQuery

/-- What a token is, wherever it stands. -/
def Token.spelling (token : Token) : Token.Kind × List Char :=
  (token.kind, token.lexeme)

namespace Reading

/-- The tokens are spelled alike. -/
def Alike (tokens tokens' : List Token) : Prop :=
  tokens.map Token.spelling = tokens'.map Token.spelling

section

variable {tokens tokens' tokens'' left right left' right' : List Token}
  {token token' : Token}

theorem Alike.refl (tokens : List Token) : Alike tokens tokens :=
  rfl

theorem Alike.symm (alike : Alike tokens tokens') : Alike tokens' tokens :=
  Eq.symm alike

theorem Alike.trans (alike : Alike tokens tokens')
    (alike' : Alike tokens' tokens'') : Alike tokens tokens'' :=
  Eq.trans alike alike'

theorem Alike.append (alike : Alike left left') (alike' : Alike right right') :
    Alike (left ++ right) (left' ++ right') := by
  rw [Alike, List.map_append, List.map_append, alike, alike']

theorem Alike.append_cases (alike : Alike (left ++ right) tokens) :
    ∃ left' right', tokens = left' ++ right' ∧ Alike left left' ∧
      Alike right right' := by
  rw [Alike, List.map_append] at alike
  obtain ⟨left', right', same, first, second⟩ :=
    List.map_eq_append_iff.mp alike.symm
  exact ⟨left', right', same, first.symm, second.symm⟩

theorem Alike.cons_cases (alike : Alike (token :: tokens) tokens') :
    ∃ token' rest, tokens' = token' :: rest ∧
      token.spelling = token'.spelling ∧ Alike tokens rest := by
  obtain ⟨token', rest, same, first, others⟩ :=
    List.map_eq_cons_iff.mp alike.symm
  exact ⟨token', rest, same, first.symm, others.symm⟩

theorem Alike.eq_nil (alike : Alike [] tokens) : tokens = [] :=
  List.map_eq_nil_iff.mp alike.symm

theorem Alike.exists_mem (alike : Alike tokens tokens')
    (among : token' ∈ tokens') :
    ∃ token ∈ tokens, token.spelling = token'.spelling := by
  have spelled := List.mem_map_of_mem (f := Token.spelling) among
  rw [← alike] at spelled
  exact List.mem_map.mp spelled

theorem kind_eq_of_spelling (same : token.spelling = token'.spelling) :
    token'.kind = token.kind :=
  (congrArg Prod.fst same).symm

/-- Tokens with one of a kind between them. -/
theorem Alike.between_cases (alike : Alike (left ++ token :: right) tokens) :
    ∃ left' token' right', tokens = left' ++ token' :: right' ∧
      token'.kind = token.kind ∧ Alike left left' ∧ Alike right right' := by
  obtain ⟨left', _, rfl, before, behind⟩ := alike.append_cases
  obtain ⟨token', right', rfl, same, later⟩ := behind.cons_cases
  exact ⟨left', token', right', rfl, kind_eq_of_spelling same, before, later⟩

end

/-! ## Pieces -/

section

variable {tokens tokens' : List Token} {pieces pieces' : List (List Token)}

theorem Listed.alike (listed : Listed pieces tokens)
    (alike : Alike tokens tokens') :
    ∃ pieces', List.Forall₂ Alike pieces pieces' ∧ Listed pieces' tokens' := by
  induction listed generalizing tokens' with
  | empty =>
      obtain rfl := alike.eq_nil
      exact ⟨[], .nil, .empty⟩
  | last piece => exact ⟨[tokens'], .cons alike .nil, .last tokens'⟩
  | trailing piece kind =>
      obtain ⟨piece', comma', _, rfl, isComma, same, none⟩ := alike.between_cases
      obtain rfl := none.eq_nil
      exact ⟨[piece'], .cons same .nil, .trailing piece' (isComma.trans kind)⟩
  | more piece kind _ induction =>
      obtain ⟨piece', comma', others, rfl, isComma, same, later⟩ :=
        alike.between_cases
      obtain ⟨_, same', listed'⟩ := induction later
      obtain ⟨following', pieces', first, others', rfl⟩ :=
        List.forall₂_cons_left_iff.mp same'
      exact ⟨_, .cons same same', .more piece' (isComma.trans kind) listed'⟩

theorem Chained.alike {separator : Token.Kind}
    (chained : Chained separator pieces tokens) (alike : Alike tokens tokens') :
    ∃ pieces', List.Forall₂ Alike pieces pieces' ∧
      Chained separator pieces' tokens' := by
  induction chained generalizing tokens' with
  | last piece => exact ⟨[tokens'], .cons alike .nil, .last tokens'⟩
  | more piece kind _ induction =>
      obtain ⟨piece', found', others, rfl, separates, same, later⟩ :=
        alike.between_cases
      obtain ⟨pieces', same', chained'⟩ := induction later
      exact ⟨piece' :: pieces', .cons same same',
        .more piece' (separates.trans kind) chained'⟩

theorem Enclosed.alike {opening closing : Token.Kind}
    (enclosed : Enclosed opening closing pieces tokens)
    (alike : Alike tokens tokens') :
    ∃ pieces', List.Forall₂ Alike pieces pieces' ∧
      Enclosed opening closing pieces' tokens' := by
  obtain ⟨first, inner, last, rfl, opens, closes, listed⟩ := enclosed
  obtain ⟨first', _, rfl, spelled, behind⟩ := alike.cons_cases
  obtain ⟨inner', _, rfl, same, ends⟩ := behind.append_cases
  obtain ⟨last', _, rfl, spelled', none⟩ := ends.cons_cases
  obtain rfl := none.eq_nil
  obtain ⟨pieces', respelled, listed'⟩ := listed.alike same
  exact ⟨pieces', respelled, first', inner', last', rfl,
    (kind_eq_of_spelling spelled).trans opens,
    (kind_eq_of_spelling spelled').trans closes, listed'⟩

theorem Enclosed.alike_append {opening closing : Token.Kind}
    {fieldPieces : List (List Token)}
    (enclosed : Enclosed opening closing (pieces ++ fieldPieces) tokens)
    (alike : Alike tokens tokens') :
    ∃ pieces' fieldPieces', List.Forall₂ Alike pieces pieces' ∧
      List.Forall₂ Alike fieldPieces fieldPieces' ∧
      Enclosed opening closing (pieces' ++ fieldPieces') tokens' := by
  obtain ⟨both, respelled, enclosed'⟩ := enclosed.alike alike
  have first := List.forall₂_take_append _ _ _ respelled.flip
  have second := List.forall₂_drop_append _ _ _ respelled.flip
  rw [← List.take_append_drop pieces.length both] at enclosed'
  exact ⟨_, _, first.flip, second.flip, enclosed'⟩

/-- Pieces that are spelled alike derive the same if each of them does. -/
theorem forall₂_alike {α : Type} {values : List α}
    {derives derives' : List Token → α → Prop}
    (respelled : List.Forall₂ Alike pieces pieces')
    (all : List.Forall₂ derives pieces values)
    (each : ∀ piece ∈ pieces, ∀ piece' value, Alike piece piece' →
      derives piece value → derives' piece' value) :
    List.Forall₂ derives' pieces' values := by
  induction respelled generalizing values with
  | nil =>
      cases all
      exact .nil
  | cons same _ induction =>
      obtain ⟨first, others⟩ := List.forall_mem_cons.mp each
      cases all with
      | cons derived later =>
          exact .cons (first _ _ same derived) (induction later others)

end

/-! ## Scalars -/

section

variable {tokens tokens' : List Token} {token token' : Token}

theorem written_eq_of_spelling (same : token.spelling = token'.spelling) :
    token'.written = token.written :=
  congrArg String.ofList (congrArg Prod.snd same).symm

theorem body_eq_of_spelling (same : token.spelling = token'.spelling) :
    token'.body = token.body := by
  have lexemes : token.lexeme = token'.lexeme := congrArg Prod.snd same
  rw [Token.body, Token.body, lexemes]

theorem Alike.singleton_cases (alike : Alike [token] tokens) :
    ∃ token', tokens = [token'] ∧ token.spelling = token'.spelling := by
  obtain ⟨token', _, rfl, same, none⟩ := alike.cons_cases
  obtain rfl := none.eq_nil
  exact ⟨token', rfl, same⟩

theorem DerivesToken.alike {α : Type} {kind : Token.Kind} {meaning : Token → α}
    {value : α} (derived : DerivesToken kind meaning tokens value)
    (alike : Alike tokens tokens')
    (means : ∀ token token' : Token, token.spelling = token'.spelling →
      meaning token' = meaning token) :
    DerivesToken kind meaning tokens' value := by
  obtain ⟨token, rfl, fits, rfl⟩ := derived
  obtain ⟨token', rfl, same⟩ := alike.singleton_cases
  exact ⟨token', rfl, (kind_eq_of_spelling same).trans fits,
    means token token' same⟩

theorem DerivesToken.written_alike {kind : Token.Kind} {text : String}
    (derived : DerivesToken kind Token.written tokens text)
    (alike : Alike tokens tokens') :
    DerivesToken kind Token.written tokens' text :=
  derived.alike alike fun _ _ => written_eq_of_spelling

theorem DerivesToken.body_alike {α : Type} {kind : Token.Kind}
    {decode : String → α} {value : α}
    (derived : DerivesToken kind (fun token => decode token.body) tokens value)
    (alike : Alike tokens tokens') :
    DerivesToken kind (fun token => decode token.body) tokens' value :=
  derived.alike alike fun _ _ same => congrArg decode (body_eq_of_spelling same)

theorem DerivesToken.plain_alike {kind : Token.Kind} {text : String}
    (derived : DerivesToken kind
      (fun token => (Text.decode token.body).plain) tokens text)
    (alike : Alike tokens tokens') :
    DerivesToken kind (fun token => (Text.decode token.body).plain) tokens' text :=
  derived.alike alike fun _ _ same => by rw [body_eq_of_spelling same]

theorem DerivesBoolean.alike {truth : Bool}
    (derived : DerivesBoolean tokens truth) (alike : Alike tokens tokens') :
    DerivesBoolean tokens' truth := by
  obtain ⟨token, rfl, kind⟩ := derived
  obtain ⟨token', rfl, same⟩ := alike.singleton_cases
  exact ⟨token', rfl, (kind_eq_of_spelling same).trans kind⟩

theorem DerivesInteger.alike {value : Nat}
    (derived : DerivesInteger token value)
    (same : token.spelling = token'.spelling) : DerivesInteger token' value := by
  obtain ⟨kind, word⟩ := derived
  obtain ⟨kinds, lexemes⟩ := Prod.mk.inj same
  exact ⟨kinds ▸ kind, lexemes ▸ word⟩

theorem DerivesLineColumn.alike {place : Nat × Nat}
    (derived : DerivesLineColumn tokens place) (alike : Alike tokens tokens') :
    DerivesLineColumn tokens' place := by
  obtain ⟨first, line, comma, column, last, rfl, opens, isLine, isComma,
    isColumn, closes⟩ := derived
  obtain ⟨first', _, rfl, same, alike⟩ := alike.cons_cases
  obtain ⟨line', _, rfl, sameLine, alike⟩ := alike.cons_cases
  obtain ⟨comma', _, rfl, sameComma, alike⟩ := alike.cons_cases
  obtain ⟨column', _, rfl, sameColumn, alike⟩ := alike.cons_cases
  obtain ⟨last', rfl, sameLast⟩ := alike.singleton_cases
  exact ⟨first', line', comma', column', last', rfl,
    (kind_eq_of_spelling same).trans opens, isLine.alike sameLine,
    (kind_eq_of_spelling sameComma).trans isComma, isColumn.alike sameColumn,
    (kind_eq_of_spelling sameLast).trans closes⟩

theorem DerivesSpan.alike {span : SourceSpan}
    (derived : DerivesSpan tokens span) (alike : Alike tokens tokens') :
    DerivesSpan tokens' span := by
  obtain ⟨first, start, comma, stop, comma₂, left, comma₃, right, last, rfl,
    opens, isStart, isComma, isStop, isComma₂, isLeft, isComma₃, isRight,
    closes⟩ := derived
  obtain ⟨first', _, rfl, same, alike⟩ := alike.cons_cases
  obtain ⟨start', _, rfl, sameStart, alike⟩ := alike.cons_cases
  obtain ⟨comma', _, rfl, sameComma, alike⟩ := alike.cons_cases
  obtain ⟨stop', _, rfl, sameStop, alike⟩ := alike.cons_cases
  obtain ⟨comma₂', _, rfl, sameComma₂, alike⟩ := alike.cons_cases
  obtain ⟨left', _, rfl, sameLeft, alike⟩ := alike.append_cases
  obtain ⟨comma₃', _, rfl, sameComma₃, alike⟩ := alike.cons_cases
  obtain ⟨right', _, rfl, sameRight, alike⟩ := alike.append_cases
  obtain ⟨last', rfl, sameLast⟩ := alike.singleton_cases
  exact ⟨first', start', comma', stop', comma₂', left', comma₃', right', last',
    rfl, (kind_eq_of_spelling same).trans opens, isStart.alike sameStart,
    (kind_eq_of_spelling sameComma).trans isComma, isStop.alike sameStop,
    (kind_eq_of_spelling sameComma₂).trans isComma₂, isLeft.alike sameLeft,
    (kind_eq_of_spelling sameComma₃).trans isComma₃, isRight.alike sameRight,
    (kind_eq_of_spelling sameLast).trans closes⟩

theorem DerivesLocation.alike {place : Location}
    (derived : DerivesLocation tokens place) (alike : Alike tokens tokens') :
    DerivesLocation tokens' place := by
  obtain ⟨token, rest, rfl, kind, body, behind⟩ := derived
  obtain ⟨token', rest', rfl, same, others⟩ := alike.cons_cases
  refine ⟨token', rest', rfl, (kind_eq_of_spelling same).trans kind,
    (body_eq_of_spelling same).trans body, ?_⟩
  cases given : place.span with
  | none =>
      rw [given] at behind
      subst behind
      exact others.eq_nil
  | some span =>
      rw [given] at behind
      exact DerivesSpan.alike behind others

end

end Reading

end TreeQuery

import TreeQuery.Proofs.Token.Scanning
import TreeQuery.Proofs.Value.Grammar

/-!
# Well-formed values

A value is well formed when each of its names, numbers, texts and locations can
be written.  The values that tokens of a source derive are well formed.
-/

namespace TreeQuery

open Reading

def SourceSpan.WellFormed (span : SourceSpan) : Prop :=
  span.offsetStart < UInt64.size ∧ span.offsetEnd < UInt64.size ∧
    span.startLine < UInt64.size ∧ span.startColumn < UInt64.size ∧
    span.endLine < UInt64.size ∧ span.endColumn < UInt64.size

structure Location.WellFormed (place : Location) : Prop where
  uri : Token.IsUri place.uri.toList
  span : ∀ span ∈ place.span, span.WellFormed

namespace Value

mutual

/-- Identifiers and numbers are of their classes, texts are decoded, and
locations are well formed; a node may have any name. -/
def WellFormed : Value → Prop
  | map entries => WellFormedEntries entries
  | list items => WellFormedItems items
  | set items => WellFormedItems items
  | tuple items => WellFormedItems items
  | constr kind name positional named =>
      (kind = .identifier → Token.IsIdentifier name.toList) ∧
        WellFormedItems positional ∧ WellFormedFields named
  | string text => Segment.Decoded text.segments
  | number digits => Token.IsNumber digits.toList
  | boolean _ => True
  | location place => place.WellFormed

def WellFormedItems : List Value → Prop
  | [] => True
  | value :: values => WellFormed value ∧ WellFormedItems values

def WellFormedEntries : List (Value × Value) → Prop
  | [] => True
  | (key, value) :: entries =>
      WellFormed key ∧ WellFormed value ∧ WellFormedEntries entries

def WellFormedFields : List (String × Value) → Prop
  | [] => True
  | (name, value) :: fields =>
      Token.IsIdentifier name.toList ∧ WellFormed value ∧
        WellFormedFields fields

end

end Value

theorem Token.body_of_lexeme {token : Token} {first last : Char}
    {body : List Char} (lexeme : token.lexeme = first :: (body ++ [last])) :
    token.body = String.ofList body := by
  rw [Token.body, lexeme, List.drop_one, List.tail_cons, List.dropLast_concat]

theorem Numeral.word?_lt {chars : List Char} {value : Nat}
    (spelled : word? chars = some value) : value < UInt64.size := by
  simpa using (Option.filter_eq_some_iff.mp spelled).2

namespace Reading

/-- The tokens belong to the classes of their kinds. -/
abbrev Spelled (tokens : List Token) : Prop :=
  ∀ token ∈ tokens, Token.Spells token.kind token.lexeme

theorem Enclosed.spelled {opening closing : Token.Kind}
    {pieces : List (List Token)} {tokens : List Token}
    (enclosed : Enclosed opening closing pieces tokens)
    (spelled : Spelled tokens) : ∀ piece ∈ pieces, Spelled piece := by
  intro piece member token inside
  exact spelled token (enclosed.subset piece member inside)

theorem DerivesToken.exists_spells {α : Type} {kind : Token.Kind}
    {meaning : Token → α} {tokens : List Token} {value : α}
    (derived : DerivesToken kind meaning tokens value)
    (spelled : Spelled tokens) :
    ∃ token, Token.Spells kind token.lexeme ∧ meaning token = value := by
  obtain ⟨token, rfl, same, meant⟩ := derived
  have spells := spelled token List.mem_cons_self
  rw [same] at spells
  exact ⟨token, spells, meant⟩

theorem DerivesSpan.wellFormed {tokens : List Token} {span : SourceSpan}
    (derived : DerivesSpan tokens span) : span.WellFormed := by
  obtain ⟨_, start, _, stop, _, left, _, right, _, -, -, isStart, -, isStop, -,
    ⟨_, line, _, column, _, -, -, isLine, -, isColumn, -⟩, -,
    ⟨_, line', _, column', _, -, -, isLine', -, isColumn', -⟩, -⟩ := derived
  exact ⟨Numeral.word?_lt isStart.2, Numeral.word?_lt isStop.2,
    Numeral.word?_lt isLine.2, Numeral.word?_lt isColumn.2,
    Numeral.word?_lt isLine'.2, Numeral.word?_lt isColumn'.2⟩

theorem DerivesLocation.wellFormed {tokens : List Token} {place : Location}
    (spelled : Spelled tokens) (derived : DerivesLocation tokens place) :
    place.WellFormed := by
  obtain ⟨token, rest, rfl, kind, body, derivedSpan⟩ := derived
  have spells := spelled token List.mem_cons_self
  rw [kind] at spells
  obtain ⟨uri, lexeme, isUri⟩ := spells
  rw [Token.body_of_lexeme lexeme] at body
  constructor
  · rw [← body, String.toList_ofList]
    exact isUri
  · intro span given
    obtain ⟨_, _⟩ := place
    subst given
    exact DerivesSpan.wellFormed derivedSpan

end Reading

namespace Value

theorem DerivesIdentifier.isIdentifier {tokens : List Token} {name : String}
    (spelled : Spelled tokens) (derived : DerivesIdentifier tokens name) :
    Token.IsIdentifier name.toList := by
  obtain ⟨token, spells, rfl⟩ := derived.exists_spells spelled
  rw [Token.written, String.toList_ofList]
  exact spells

mutual

/-- Tokens of a source derive well-formed values only. -/
theorem Derives.wellFormed {tokens : List Token} {value : Value}
    (spelled : Spelled tokens) (derived : Derives tokens value) :
    WellFormed value := by
  match value with
  | .map entries =>
      obtain ⟨pieces, enclosed, all⟩ := derived
      exact DerivesEntries.wellFormed (enclosed.spelled spelled) all
  | .list items | .set items | .tuple items =>
      obtain ⟨pieces, enclosed, all⟩ := derived
      exact DerivesItems.wellFormed (enclosed.spelled spelled) all
  | .constr kind name positional named =>
      obtain ⟨head, arguments, pieces, fieldPieces, rfl, derivedName, enclosed,
        items, fields⟩ := derived
      obtain ⟨spelledHead, spelledArguments⟩ :=
        List.forall_mem_append.mp spelled
      obtain ⟨spelledItems, spelledFields⟩ :=
        List.forall_mem_append.mp (enclosed.spelled spelledArguments)
      refine ⟨?_, DerivesItems.wellFormed spelledItems items,
        DerivesFields.wellFormed spelledFields fields⟩
      intro isIdentifier
      subst isIdentifier
      exact DerivesIdentifier.isIdentifier spelledHead derivedName
  | .string text =>
      obtain ⟨token, spells, rfl⟩ :=
        DerivesToken.exists_spells derived spelled
      obtain ⟨body, lexeme, quotable⟩ := spells
      change Segment.Decoded (Segment.ofBody token.body.toList)
      rw [Token.body_of_lexeme lexeme, String.toList_ofList]
      exact Segment.ofBody_decoded quotable
  | .number digits =>
      obtain ⟨token, spells, rfl⟩ :=
        DerivesToken.exists_spells derived spelled
      rw [WellFormed, Token.written, String.toList_ofList]
      exact spells
  | .boolean _ => exact trivial
  | .location place => exact DerivesLocation.wellFormed spelled derived
termination_by structural value

theorem DerivesItems.wellFormed {pieces : List (List Token)}
    {values : List Value} (spelled : ∀ piece ∈ pieces, Spelled piece)
    (derived : DerivesItems pieces values) : WellFormedItems values := by
  match pieces, values with
  | [], [] => exact trivial
  | piece :: pieces, value :: values =>
      obtain ⟨spelledFirst, spelledRest⟩ := List.forall_mem_cons.mp spelled
      exact ⟨Derives.wellFormed spelledFirst derived.1,
        DerivesItems.wellFormed spelledRest derived.2⟩
  | [], _ :: _ | _ :: _, [] => exact derived.elim
termination_by structural values

theorem DerivesEntries.wellFormed {pieces : List (List Token)}
    {entries : List (Value × Value)}
    (spelled : ∀ piece ∈ pieces, Spelled piece)
    (derived : DerivesEntries pieces entries) : WellFormedEntries entries := by
  match pieces, entries with
  | [], [] => exact trivial
  | piece :: pieces, (key, value) :: entries =>
      obtain ⟨spelledFirst, spelledRest⟩ := List.forall_mem_cons.mp spelled
      obtain ⟨⟨left, colon, right, rfl, _, derivedKey, derivedValue⟩, others⟩ :=
        derived
      obtain ⟨spelledKey, spelledBehind⟩ :=
        List.forall_mem_append.mp spelledFirst
      obtain ⟨_, spelledValue⟩ := List.forall_mem_cons.mp spelledBehind
      exact ⟨Derives.wellFormed spelledKey derivedKey,
        Derives.wellFormed spelledValue derivedValue,
        DerivesEntries.wellFormed spelledRest others⟩
  | [], _ :: _ | _ :: _, [] => exact derived.elim
termination_by structural entries

theorem DerivesFields.wellFormed {pieces : List (List Token)}
    {fields : List (String × Value)}
    (spelled : ∀ piece ∈ pieces, Spelled piece)
    (derived : DerivesFields pieces fields) : WellFormedFields fields := by
  match pieces, fields with
  | [], [] => exact trivial
  | piece :: pieces, (name, value) :: fields =>
      obtain ⟨spelledFirst, spelledRest⟩ := List.forall_mem_cons.mp spelled
      obtain ⟨⟨left, equals, right, rfl, _, derivedName, derivedValue⟩,
        others⟩ := derived
      obtain ⟨spelledName, spelledBehind⟩ :=
        List.forall_mem_append.mp spelledFirst
      obtain ⟨_, spelledValue⟩ := List.forall_mem_cons.mp spelledBehind
      exact ⟨DerivesIdentifier.isIdentifier spelledName derivedName,
        Derives.wellFormed spelledValue derivedValue,
        DerivesFields.wellFormed spelledRest others⟩
  | [], _ :: _ | _ :: _, [] => exact derived.elim
termination_by structural fields

end

end Value

end TreeQuery

import TreeQuery.Proofs.Reading.Alike
import TreeQuery.Proofs.Value.Reading

/-!
# Values of tokens that are spelled alike

What tokens derive does not depend on where they stand, so a value is read from
any text that is cut into tokens of the same spelling.
-/

namespace TreeQuery

open Reading

namespace Value

theorem DerivesName.alike {kind : ConstructorKind} {name : String}
    {tokens tokens' : List Token} (derived : DerivesName kind tokens name)
    (alike : Alike tokens tokens') : DerivesName kind tokens' name := by
  cases kind with
  | identifier => exact DerivesToken.written_alike derived alike
  | node => exact DerivesToken.plain_alike derived alike

mutual

/-- Tokens that are spelled alike derive the same values. -/
theorem Derives.alike (value : Value) (tokens tokens' : List Token)
    (derived : Derives tokens value) (alike : Alike tokens tokens') :
    Derives tokens' value := by
  match value with
  | .map entries =>
      obtain ⟨pieces, enclosed, found⟩ := derived
      obtain ⟨pieces', respelled, enclosed'⟩ := enclosed.alike alike
      exact ⟨pieces', enclosed', DerivesEntries.alike entries _ _ found respelled⟩
  | .list items | .set items | .tuple items =>
      obtain ⟨pieces, enclosed, found⟩ := derived
      obtain ⟨pieces', respelled, enclosed'⟩ := enclosed.alike alike
      exact ⟨pieces', enclosed', DerivesItems.alike items _ _ found respelled⟩
  | .constr kind name positional named =>
      obtain ⟨head, arguments, pieces, fieldPieces, rfl, names, enclosed, items,
        fields⟩ := derived
      obtain ⟨head', arguments', rfl, same, same'⟩ := alike.append_cases
      obtain ⟨pieces', fieldPieces', first, second, enclosed'⟩ :=
        enclosed.alike_append same'
      exact ⟨head', arguments', pieces', fieldPieces', rfl, names.alike same,
        enclosed', DerivesItems.alike positional _ _ items first,
        DerivesFields.alike named _ _ fields second⟩
  | .string text => exact DerivesToken.body_alike derived alike
  | .number digits => exact DerivesToken.written_alike derived alike
  | .boolean truth => exact DerivesBoolean.alike derived alike
  | .location place => exact DerivesLocation.alike derived alike
termination_by structural value

theorem DerivesItems.alike (items : List Value)
    (pieces pieces' : List (List Token)) (derived : DerivesItems pieces items)
    (respelled : List.Forall₂ Alike pieces pieces') :
    DerivesItems pieces' items := by
  match items, pieces, respelled with
  | [], [], .nil => exact trivial
  | item :: items, _, .cons same others =>
      exact ⟨Derives.alike item _ _ derived.1 same,
        DerivesItems.alike items _ _ derived.2 others⟩
termination_by structural items

theorem DerivesEntries.alike (entries : List (Value × Value))
    (pieces pieces' : List (List Token))
    (derived : DerivesEntries pieces entries)
    (respelled : List.Forall₂ Alike pieces pieces') :
    DerivesEntries pieces' entries := by
  match entries, pieces, respelled with
  | [], [], .nil => exact trivial
  | (key, value) :: entries, _, .cons same others =>
      obtain ⟨⟨left, colon, right, rfl, kind, spelledKey, spelledValue⟩, later⟩ :=
        derived
      obtain ⟨left', colon', right', rfl, isColon, sameKey, sameValue⟩ :=
        same.between_cases
      exact ⟨⟨left', colon', right', rfl, isColon.trans kind,
        Derives.alike key _ _ spelledKey sameKey,
        Derives.alike value _ _ spelledValue sameValue⟩,
        DerivesEntries.alike entries _ _ later others⟩
termination_by structural entries

theorem DerivesFields.alike (fields : List (String × Value))
    (pieces pieces' : List (List Token))
    (derived : DerivesFields pieces fields)
    (respelled : List.Forall₂ Alike pieces pieces') :
    DerivesFields pieces' fields := by
  match fields, pieces, respelled with
  | [], [], .nil => exact trivial
  | (name, value) :: fields, _, .cons same others =>
      obtain ⟨⟨left, equals, right, rfl, kind, spelledName, spelledValue⟩,
        later⟩ := derived
      obtain ⟨left', equals', right', rfl, isEquals, sameName, sameValue⟩ :=
        same.between_cases
      exact ⟨⟨left', equals', right', rfl, isEquals.trans kind,
        DerivesToken.written_alike spelledName sameName,
        Derives.alike value _ _ spelledValue sameValue⟩,
        DerivesFields.alike fields _ _ later others⟩
termination_by structural fields

end

end Value

end TreeQuery

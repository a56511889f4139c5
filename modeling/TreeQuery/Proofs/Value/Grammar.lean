import TreeQuery.Proofs.Reading.Arguments
import TreeQuery.Proofs.Reading.Scalar

/-!
# The grammar of values

Which tokens derive which value, by recursion on the value.  The tokens of
items, entries and named children are the pieces of a list between delimiters.
-/

namespace TreeQuery

open Reading

namespace Value

def DerivesIdentifier : List Token → String → Prop :=
  DerivesToken .identifier Token.written

/-- The tokens name a constructor or a node. -/
def DerivesName : ConstructorKind → List Token → String → Prop
  | .identifier => DerivesIdentifier
  | .node => DerivesToken .string fun token => (Text.decode token.body).plain

mutual

/-- The tokens spell the value. -/
def Derives : List Token → Value → Prop
  | tokens, map entries =>
      ∃ pieces, Enclosed .openParen .closeParen pieces tokens ∧
        DerivesEntries pieces entries
  | tokens, list items =>
      ∃ pieces, Enclosed .openBracket .closeBracket pieces tokens ∧
        DerivesItems pieces items
  | tokens, set items =>
      ∃ pieces, Enclosed .openBrace .closeBrace pieces tokens ∧
        DerivesItems pieces items
  | tokens, tuple items =>
      ∃ pieces, Enclosed .openAngle .closeAngle pieces tokens ∧
        DerivesItems pieces items
  | tokens, constr kind name positional named =>
      ∃ head arguments pieces fieldPieces, tokens = head ++ arguments ∧
        DerivesName kind head name ∧
        Enclosed .openParen .closeParen (pieces ++ fieldPieces) arguments ∧
        DerivesItems pieces positional ∧ DerivesFields fieldPieces named
  | tokens, string text =>
      DerivesToken .string (fun token => Text.decode token.body) tokens text
  | tokens, number digits => DerivesToken .number Token.written tokens digits
  | tokens, boolean truth =>
      ∃ token, tokens = [token] ∧
        token.kind = if truth then .trueWord else .falseWord
  | tokens, location place => DerivesLocation tokens place

/-- Each piece spells an item. -/
def DerivesItems : List (List Token) → List Value → Prop
  | [], [] => True
  | piece :: pieces, value :: values =>
      Derives piece value ∧ DerivesItems pieces values
  | _, _ => False

/-- Each piece spells an entry. -/
def DerivesEntries : List (List Token) → List (Value × Value) → Prop
  | [], [] => True
  | piece :: pieces, (key, value) :: entries =>
      (∃ left colon right, piece = left ++ colon :: right ∧
        colon.kind = .colon ∧ Derives left key ∧ Derives right value) ∧
        DerivesEntries pieces entries
  | _, _ => False

/-- Each piece spells a name and a named child. -/
def DerivesFields : List (List Token) → List (String × Value) → Prop
  | [], [] => True
  | piece :: pieces, (name, value) :: fields =>
      (∃ left equals right, piece = left ++ equals :: right ∧
        equals.kind = .equals ∧ DerivesIdentifier left name ∧
        Derives right value) ∧
        DerivesFields pieces fields
  | _, _ => False

end

theorem derivesItems_iff_forall₂ {pieces : List (List Token)}
    {values : List Value} :
    DerivesItems pieces values ↔ List.Forall₂ Derives pieces values := by
  induction pieces generalizing values with
  | nil => cases values <;> simp [DerivesItems]
  | cons piece pieces induction =>
      cases values <;> simp [DerivesItems, induction]

theorem derivesEntries_iff_forall₂ {pieces : List (List Token)}
    {entries : List (Value × Value)} :
    DerivesEntries pieces entries ↔
      List.Forall₂ (DerivesEntry Derives) pieces entries := by
  induction pieces generalizing entries with
  | nil => cases entries <;> simp [DerivesEntries]
  | cons piece pieces induction =>
      cases entries <;> simp [DerivesEntries, DerivesEntry, induction]

theorem derivesFields_iff_forall₂ {pieces : List (List Token)}
    {fields : List (String × Value)} :
    DerivesFields pieces fields ↔
      List.Forall₂ (DerivesField DerivesIdentifier Derives) pieces fields := by
  induction pieces generalizing fields with
  | nil => cases fields <;> simp [DerivesFields]
  | cons piece pieces induction =>
      cases fields <;> simp [DerivesFields, DerivesField, induction]

end Value

end TreeQuery
